import Parley.Text.Numeral

/-!
# What numerals write

`readNat_ok`: a number is read exactly from the digits that write it, after a plus sign or none, and
only up to the limit. The reader stops at the first value on the way that is above the limit, which is
the same, since what follows never makes a value smaller (`le_ofDigitChars`).
-/

namespace Parley.Numeral

def Digits (cs : List Char) (n : Nat) : Prop :=
  cs ≠ [] ∧ (∀ c ∈ cs, c.isDigit = true) ∧ Nat.ofDigitChars 10 cs 0 = n

def Writes (cs : List Char) (n : Nat) : Prop :=
  ∃ digits, Digits digits n ∧ (cs = digits ∨ cs = '+' :: digits)

theorem writes_plus : Writes ('+' :: cs) n ↔ Digits cs n := by
  constructor
  · rintro ⟨digits, hdigits, rfl | heq⟩
    · simp [Digits] at hdigits
    · cases heq
      exact hdigits
  · exact fun hdigits => ⟨cs, hdigits, .inr rfl⟩

theorem writes_unsigned (hplus : ∀ rest, cs ≠ '+' :: rest) : Writes cs n ↔ Digits cs n := by
  constructor
  · rintro ⟨digits, hdigits, rfl | heq⟩
    · exact hdigits
    · exact absurd heq (hplus digits)
  · exact fun hdigits => ⟨cs, hdigits, .inl rfl⟩

-- ---------------------------------------------------------------------------
-- The reader
-- ---------------------------------------------------------------------------

theorem le_ofDigitChars (cs : List Char) (n : Nat) : n ≤ Nat.ofDigitChars 10 cs n := by
  induction cs generalizing n with
  | nil => simp
  | cons c cs ih =>
    calc n ≤ 10 * n + (c.toNat - '0'.toNat) := by omega
      _ ≤ Nat.ofDigitChars 10 cs (10 * n + (c.toNat - '0'.toNat)) := ih _
      _ = Nat.ofDigitChars 10 (c :: cs) n := by rw [Nat.ofDigitChars_cons]

theorem magnitude_cons_ok : magnitude limit overflow n (c :: cs) = .ok m ↔ c.isDigit = true ∧
    10 * n + (c.toNat - '0'.toNat) ≤ limit ∧
      magnitude limit overflow (10 * n + (c.toNat - '0'.toNat)) cs = .ok m := by
  by_cases hc : c.isDigit = true
  · by_cases hle : 10 * n + (c.toNat - '0'.toNat) ≤ limit
    · simp only [magnitude, digit?, hc, hle, if_true, true_and]
    · simp only [magnitude, digit?, hc, hle, if_true, if_false, reduceCtorEq, false_and, and_false]
  · simp [magnitude, digit?, hc]

theorem magnitude_ok (hn : n ≤ limit) : magnitude limit overflow n cs = .ok m ↔
    (∀ c ∈ cs, c.isDigit = true) ∧ Nat.ofDigitChars 10 cs n = m ∧ m ≤ limit := by
  induction cs generalizing n with
  | nil =>
    simp only [magnitude, Except.ok.injEq, Nat.ofDigitChars_nil, List.not_mem_nil, false_implies,
      implies_true, true_and]
    exact ⟨fun h => ⟨h, h ▸ hn⟩, And.left⟩
  | cons c cs ih =>
    rw [magnitude_cons_ok, List.forall_mem_cons, Nat.ofDigitChars_cons]
    constructor
    · rintro ⟨hc, hle, h⟩
      obtain ⟨hcs, hvalue⟩ := (ih hle).mp h
      exact ⟨⟨hc, hcs⟩, hvalue⟩
    · rintro ⟨⟨hc, hcs⟩, hvalue, hm⟩
      -- The value so far is not above the last one.
      have hle := Nat.le_trans (hvalue ▸ le_ofDigitChars cs _) hm
      exact ⟨hc, hle, (ih hle).mpr ⟨hcs, hvalue, hm⟩⟩

theorem readNat_ok : readNat limit cs = .ok n ↔ Writes cs n ∧ n ≤ limit := by
  have hdigits {cs : List Char} (hcs : cs ≠ []) :
      magnitude limit .tooLarge 0 cs = .ok n ↔ Digits cs n ∧ n ≤ limit := by
    simp [magnitude_ok (Nat.zero_le limit), Digits, hcs, and_assoc]
  unfold readNat
  split
  · simp [writes_unsigned, Digits]
  · simp [writes_plus, Digits]
  · next rest hrest => rw [hdigits hrest, writes_plus]
  · next hcs _ hplus => rw [hdigits hcs, writes_unsigned hplus]

end Parley.Numeral
