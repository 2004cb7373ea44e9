import Mathlib.Data.List.Basic
import Mathlib.Data.Set.Insert
import Parley.Pair

/-!
# Pairs of users and their keys

`Pair.key_identifies`: two pairs have one key exactly if they are of the same users. Both ids are read
back from the key (`Pair.ofKey?_key`), since no digit is a colon.
-/

namespace Parley

theorem Pair.of_ok (h : Pair.of a b = .ok pair) :
    (pair.low = a ∧ pair.high = b) ∨ (pair.low = b ∧ pair.high = a) := by
  unfold Pair.of at h
  split at h
  · split at h
    · cases h; exact .inl ⟨rfl, rfl⟩
    · split at h
      · cases h; exact .inr ⟨rfl, rfl⟩
      · cases h
  · cases h

theorem Pair.ne_of_ok (h : Pair.of a b = .ok pair) : a ≠ b := by
  have := pair.low_lt_high
  rcases Pair.of_ok h with ⟨hlow, hhigh⟩ | ⟨hlow, hhigh⟩ <;> omega

theorem Pair.of_swap (h : Pair.of a b = .ok pair) : Pair.of b a = .ok pair := by
  unfold Pair.of at h ⊢
  split at h
  · rename_i hpos
    rw [dif_pos hpos.symm]
    split at h
    · rename_i hlt
      rw [dif_neg (by omega), dif_pos hlt]
      exact h
    · split at h
      · rename_i hgt
        rw [dif_pos hgt]
        exact h
      · cases h
  · cases h

theorem Pair.low_of_ok (h : Pair.of a b = .ok pair) : pair.low = min a b := by
  have := pair.low_lt_high
  rcases Pair.of_ok h with ⟨rfl, rfl⟩ | ⟨rfl, rfl⟩ <;> omega

theorem Pair.high_of_ok (h : Pair.of a b = .ok pair) : pair.high = max a b := by
  have := pair.low_lt_high
  rcases Pair.of_ok h with ⟨rfl, rfl⟩ | ⟨rfl, rfl⟩ <;> omega

theorem Pair.of_cases (a b : Int) :
    (0 < a ∧ 0 < b ∧ a ≠ b ∧ ∃ pair, Pair.of a b = .ok pair) ∨
      ((a ≤ 0 ∨ b ≤ 0 ∨ a = b) ∧ ∃ reason, Pair.of a b = .error (.invalid reason)) := by
  unfold Pair.of
  split
  · next hpos =>
    split
    · next hlt => exact .inl ⟨hpos.1, hpos.2, Int.ne_of_lt hlt, _, rfl⟩
    · split
      · next hgt => exact .inl ⟨hpos.1, hpos.2, Int.ne_of_gt hgt, _, rfl⟩
      · exact .inr ⟨by omega, _, rfl⟩
  · exact .inr ⟨by omega, _, rfl⟩

-- ---------------------------------------------------------------------------
-- Keys
-- ---------------------------------------------------------------------------

theorem toList_repr {n : Int} (h : 0 < n) : n.repr.toList = Nat.toDigits 10 n.toNat := by
  rw [Int.repr_eq_if, if_pos (Int.le_of_lt h), Nat.repr_eq_ofList_toDigits, String.toList_ofList]

theorem colon_not_mem_toDigits (n : Nat) : ':' ∉ Nat.toDigits 10 n := by
  intro hmem
  have hdigit := Nat.isDigit_of_mem_toDigits (by decide) (by decide) hmem
  revert hdigit
  decide

theorem Pair.toList_key (p : Pair) :
    p.key.toList = Nat.toDigits 10 p.low.toNat ++ ':' :: Nat.toDigits 10 p.high.toNat := by
  rw [← toList_repr p.low_pos, ← toList_repr (Int.lt_trans p.low_pos p.low_lt_high)]
  show (p.low.repr ++ ":" ++ p.high.repr).toList = _
  simp [String.toList_append]

/-- The pair of the numbers before and after the first colon of a text, if they are one. -/
def Pair.ofKey? (text : String) : Option Pair :=
  let number (digits : List Char) : Int := Nat.ofDigitChars 10 digits 0
  let low := text.toList.takeWhile (· != ':')
  let high := (text.toList.dropWhile (· != ':')).tail
  (Pair.of (number low) (number high)).toOption

theorem Pair.of_low_high (p : Pair) : Pair.of p.low p.high = .ok p := by
  have hpos : 0 < p.low ∧ 0 < p.high := ⟨p.low_pos, Int.lt_trans p.low_pos p.low_lt_high⟩
  rw [Pair.of, dif_pos hpos, dif_pos p.low_lt_high]

theorem Pair.ofKey?_key (p : Pair) : Pair.ofKey? p.key = some p := by
  have hdigits (n : Nat) : ∀ c ∈ Nat.toDigits 10 n, (c != ':') = true := fun c hc =>
    bne_iff_ne.mpr (ne_of_mem_of_not_mem hc (colon_not_mem_toDigits n))
  have hlow : p.key.toList.takeWhile (· != ':') = Nat.toDigits 10 p.low.toNat := by
    rw [toList_key, List.takeWhile_append_of_pos (hdigits _)]
    simp
  have hhigh : (p.key.toList.dropWhile (· != ':')).tail = Nat.toDigits 10 p.high.toNat := by
    rw [toList_key, List.dropWhile_append_of_pos (hdigits _)]
    simp
  have hvalue {n : Int} (h : 0 < n) : (Nat.ofDigitChars 10 (Nat.toDigits 10 n.toNat) 0 : Int) = n := by
    rw [Nat.ofDigitChars_toDigits (by decide) (by decide), Int.toNat_of_nonneg (Int.le_of_lt h)]
  simp only [ofKey?, hlow, hhigh, hvalue p.low_pos, hvalue (Int.lt_trans p.low_pos p.low_lt_high),
    of_low_high]
  rfl

theorem Pair.key_inj {p q : Pair} (h : p.key = q.key) : p = q := by
  have hread := congrArg Pair.ofKey? h
  rwa [ofKey?_key, ofKey?_key, Option.some.injEq] at hread

theorem Pair.eq_iff_of_ok (hp : Pair.of a b = .ok p) (hq : Pair.of c d = .ok q) :
    p = q ↔ ({a, b} : Set Int) = {c, d} := by
  rw [Set.pair_eq_pair_iff]
  constructor
  · rintro rfl
    rcases of_ok hp with ⟨rfl, rfl⟩ | ⟨rfl, rfl⟩
    · exact of_ok hq
    · exact (of_ok hq).symm.imp And.symm And.symm
  · rintro (⟨rfl, rfl⟩ | ⟨rfl, rfl⟩)
    · exact Except.ok.inj (hp.symm.trans hq)
    · exact Except.ok.inj ((of_swap hp).symm.trans hq)

/-- Two pairs have one key exactly if they are of the same two users, and a key tells which users these
are. -/
theorem Pair.key_identifies {a b c d : Int} {p q : Pair} (hp : Pair.of a b = .ok p)
    (hq : Pair.of c d = .ok q) : (p.key = q.key ↔ ({a, b} : Set Int) = {c, d}) ∧
      (Pair.ofKey? p.key).map (fun r => (r.low, r.high)) = some (min a b, max a b) := by
  refine ⟨?_, ?_⟩
  · rw [← eq_iff_of_ok hp hq]
    exact ⟨key_inj, congrArg key⟩
  · rw [ofKey?_key, Option.map_some, low_of_ok hp, high_of_ok hp]

/-- Of these two keys only the place of the colon is not the same. -/
theorem Pair.keys_differ_by_colon : ∃ p q, Pair.of 112 1 = .ok p ∧ Pair.of 12 11 = .ok q ∧
    p.key = "1:112" ∧ q.key = "11:12" ∧ p.key ≠ q.key ∧
      (Pair.ofKey? p.key).map (fun r => (r.low, r.high)) = some (1, 112) := by
  have hp : Pair.of 112 1 = .ok ⟨1, 112, by decide, by decide⟩ := rfl
  have hq : Pair.of 12 11 = .ok ⟨11, 12, by decide, by decide⟩ := rfl
  obtain ⟨hkeys, hread⟩ := key_identifies hp hq
  refine ⟨_, _, hp, hq, by decide +kernel, by decide +kernel, fun hsame => ?_, hread⟩
  have husers := hkeys.mp hsame
  simp [Set.pair_eq_pair_iff] at husers

end Parley
