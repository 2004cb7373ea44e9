import Parley.Time.Instant

/-!
# Digits of a fixed width

A number that fits a width is read back from its digits (`takeFixed?_fixed`), and texts that begin
with such digits sort by the numbers first (`fixed_append_lt`).
-/

namespace Parley

open Numeral (fixed digit?)

theorem digit?_digitChar {n : Nat} (h : n < 10) : digit? (Nat.digitChar n) = some n := by
  have : ∀ n : Fin 10, digit? (Nat.digitChar n) = some n.val := by decide
  exact this ⟨n, h⟩

theorem isDigit_digitChar {n : Nat} (h : n < 10) : (Nat.digitChar n).isDigit = true := by
  have : ∀ n : Fin 10, (Nat.digitChar n).isDigit = true := by decide
  exact this ⟨n, h⟩

theorem digitChar_lt {m n : Nat} (h : m < n) (hn : n < 10) : Nat.digitChar m < Nat.digitChar n := by
  have : ∀ m n : Fin 10, m < n → Nat.digitChar m < Nat.digitChar n := by decide
  exact this ⟨m, by omega⟩ ⟨n, hn⟩ h

theorem isDigit_of_mem_fixed {width n : Nat} {c : Char} (h : c ∈ fixed width n) :
    c.isDigit = true := by
  induction width generalizing n with
  | zero => simp [fixed] at h
  | succ w ih =>
    simp only [fixed, List.mem_append, List.mem_singleton] at h
    rcases h with h | rfl
    · exact ih h
    · exact isDigit_digitChar (Nat.mod_lt _ (by omega))

-- ---------------------------------------------------------------------------
-- Reading digits back
-- ---------------------------------------------------------------------------

theorem number?_go_append (cs ds : List Char) (n : Nat) :
    Instant.number?.go n (cs ++ ds) =
      (Instant.number?.go n cs).bind fun m => Instant.number?.go m ds := by
  induction cs generalizing n with
  | nil => rfl
  | cons c cs ih =>
    simp only [List.cons_append, Instant.number?.go, Option.bind_assoc]
    exact congrArg _ (funext fun d => ih _)

theorem number?_fixed {width n : Nat} (h : n < Nat.pow 10 width) :
    Instant.number? (fixed width n) = some n := by
  induction width generalizing n with
  | zero =>
    have : n = 0 := by simpa using h
    subst this; rfl
  | succ w ih =>
    have hw : n / 10 < Nat.pow 10 w := by
      rw [Nat.div_lt_iff_lt_mul (by omega)]; exact h
    have hread := ih hw
    simp only [Instant.number?] at hread ⊢
    rw [fixed, number?_go_append, hread]
    simp only [Option.bind_some, Instant.number?.go, digit?_digitChar (Nat.mod_lt n (by omega)),
      Option.some.injEq]
    omega

theorem takeFixed?_fixed {width n : Nat} (h : n < Nat.pow 10 width) (rest : List Char) :
    Instant.takeFixed? width (fixed width n ++ rest) = some (n, rest) := by
  have hlen := Numeral.length_fixed width n
  simp [Instant.takeFixed?, hlen, number?_fixed h]

-- ---------------------------------------------------------------------------
-- The order of texts
-- ---------------------------------------------------------------------------

theorem append_lt_append {xs ys : List Char} (h : xs < ys) (hlen : xs.length = ys.length)
    (as bs : List Char) : xs ++ as < ys ++ bs := by
  induction xs generalizing ys with
  | nil => cases ys with
    | nil => exact absurd h (List.lt_irrefl _)
    | cons y ys => simp at hlen
  | cons x xs ih => cases ys with
    | nil => simp at hlen
    | cons y ys =>
      rw [List.cons_append, List.cons_append, List.cons_lt_cons_iff]
      rcases List.cons_lt_cons_iff.mp h with hxy | ⟨rfl, hrest⟩
      · exact .inl hxy
      · exact .inr ⟨rfl, ih hrest (by simpa using hlen)⟩

theorem append_lt_append_left (xs : List Char) {as bs : List Char} (h : as < bs) :
    xs ++ as < xs ++ bs := by
  induction xs with
  | nil => exact h
  | cons x xs ih => exact List.cons_lt_cons_iff.mpr (.inr ⟨rfl, ih⟩)

theorem fixed_lt {width m n : Nat} (h : m < n) (hn : n < Nat.pow 10 width) :
    fixed width m < fixed width n := by
  induction width generalizing m n with
  | zero =>
    have : n < 1 := hn
    omega
  | succ w ih =>
    simp only [fixed]
    have hw : n / 10 < Nat.pow 10 w := by
      rw [Nat.div_lt_iff_lt_mul (by omega)]; exact hn
    rcases Nat.lt_or_eq_of_le (Nat.div_le_div_right (c := 10) (Nat.le_of_lt h)) with hlt | heq
    · exact append_lt_append (ih hlt hw) (by simp [Numeral.length_fixed]) _ _
    · rw [heq]
      apply append_lt_append_left
      exact List.cons_lt_cons_iff.mpr (.inl (digitChar_lt (by omega) (Nat.mod_lt _ (by omega))))

theorem fixed_append_lt {width m n : Nat} {as bs : List Char} (hn : n < Nat.pow 10 width)
    (h : m < n ∨ m = n ∧ as < bs) : fixed width m ++ as < fixed width n ++ bs := by
  rcases h with h | ⟨rfl, h⟩
  · exact append_lt_append (fixed_lt h hn) (by simp [Numeral.length_fixed]) _ _
  · exact append_lt_append_left _ h

theorem fixed_cons_lt {width m n : Nat} {c : Char} {as bs : List Char}
    (hn : n < Nat.pow 10 width) (h : m < n ∨ m = n ∧ as < bs) :
    fixed width m ++ c :: as < fixed width n ++ c :: bs :=
  fixed_append_lt hn (h.imp_right (.imp_right fun h => List.cons_lt_cons_iff.mpr (.inr ⟨rfl, h⟩)))

end Parley
