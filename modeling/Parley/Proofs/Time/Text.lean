import Parley.Proofs.Time.Calendar
import Parley.Proofs.Time.Digits

/-!
# Times read back from their texts

`read?_textWith`: a text with enough digits for the fraction of its second is read back as the
instant XX-/

namespace Parley.Instant

open Numeral (fixed)

/-- As many digits of the fraction as lose nothing of it. -/
def Shows (i : Instant) (places : Nat) : Prop :=
  places ≤ 9 ∧ Nat.pow 10 (9 - places) ∣ i.fraction

theorem shows_nine (i : Instant) : i.Shows 9 := ⟨Nat.le_refl 9, Nat.one_dvd _⟩

theorem billion_eq (h : places ≤ 9) :
    1000000000 = Nat.pow 10 (9 - places) * Nat.pow 10 places := by
  show 10 ^ 9 = 10 ^ (9 - places) * 10 ^ places
  rw [← Nat.pow_add, Nat.sub_add_cancel h]

theorem fraction_lt (i : Instant) : i.fraction < 1000000000 := Nat.mod_lt _ (by omega)

theorem secondOfDay_lt (i : Instant) : i.secondOfDay < 86400 := by
  simp only [secondOfDay, secondsPerDay]; omega

theorem nanos_eq (i : Instant) :
    (i.secondOfDay % 60 = 59 ∧ i.nanos = i.fraction + 1000000000 ∧ i.second = 60) ∨
      (i.nanos = i.fraction ∧ i.second = i.secondOfDay % 60) := by
  have hv := i.valid
  simp only [secondOfDay, secondsPerDay, fraction, second]
  omega

theorem seconds_eq (i : Instant) :
    i.seconds = i.seconds / secondsPerDay * secondsPerDay + i.secondOfDay := by
  simp only [secondOfDay, secondsPerDay]; omega

theorem second_le (i : Instant) : i.second ≤ 60 := by
  rcases i.nanos_eq with ⟨-, -, h⟩ | ⟨-, h⟩ <;> omega

theorem month_lt (i : Instant) : i.date.month < 100 :=
  Nat.lt_of_le_of_lt (Date.ofDays_exists _).2.1 (by decide)

theorem day_lt (i : Instant) : i.date.day < 100 := by
  have hday : i.date.day ≤ Date.daysInMonth i.date.year i.date.month :=
    (Date.ofDays_exists _).2.2.2
  have hmonth : Date.daysInMonth i.date.year i.date.month ≤ 31 := by
    unfold Date.daysInMonth
    repeat' split
    all_goals omega
  omega

-- ---------------------------------------------------------------------------
-- Parts of a text
-- ---------------------------------------------------------------------------

theorem expect?_cons (c : Char) (cs : List Char) : expect? c (c :: cs) = some cs := by
  simp [expect?]

theorem takeFixed?_after (c : Char) {width n : Nat} (h : n < Nat.pow 10 width)
    (rest : List Char) :
    (expect? c (c :: (fixed width n ++ rest))).bind (takeFixed? width) = some (n, rest) := by
  simp [expect?_cons, takeFixed?_fixed h]

theorem takeWhile_isDigit {digits rest : List Char} (h : ∀ c ∈ digits, c.isDigit = true)
    (hrest : rest.head?.all (!·.isDigit) = true) :
    (digits ++ rest).takeWhile Char.isDigit = digits ∧
      (digits ++ rest).dropWhile Char.isDigit = rest := by
  rw [List.takeWhile_append_of_pos h, List.dropWhile_append_of_pos h]
  cases rest with
  | nil => simp
  | cons c cs => simp_all

theorem number?_replicate (k : Nat) (cs : List Char) :
    number? (List.replicate k '0' ++ cs) = number? cs := by
  induction k with
  | zero => rfl
  | succ k ih => exact ih

theorem number?_toDigits (n : Nat) : number? (Nat.toDigits 10 n) = some n := by
  induction n using Nat.strongRecOn with
  | ind n ih =>
    by_cases h : n < 10
    · simp [Nat.toDigits_of_lt_base h, number?, number?.go, digit?_digitChar h]
    · have hread := ih (n / 10) (by omega)
      rw [Nat.toDigits_of_base_le (by omega) (by omega)]
      simp only [number?] at hread ⊢
      rw [number?_go_append, hread]
      simp only [Option.bind_some, number?.go, digit?_digitChar (Nat.mod_lt n (by omega)),
        Option.some.injEq]
      omega

theorem takeYear?_of_isDigit {c : Char} {cs : List Char} (h : c.isDigit = true) :
    takeYear? (c :: cs) = (takeFixed? 4 (c :: cs)).map fun (n, rest) => (Int.ofNat n, rest) := by
  unfold takeYear?
  split
  · rename_i heq; cases heq; simp at h
  · rename_i heq; cases heq; simp at h
  · rfl

theorem takeYear?_yearText (year : Int) (rest : List Char) :
    takeYear? (yearText year ++ '-' :: rest) = some (year, '-' :: rest) := by
  unfold yearText
  split
  · rename_i h
    have hyear : year.toNat < Nat.pow 10 4 := show year.toNat < 10000 by omega
    have hread := takeFixed?_fixed hyear ('-' :: rest)
    obtain ⟨c, cs, hc, hdigit⟩ : ∃ c cs, fixed 4 year.toNat = c :: cs ∧ c.isDigit = true := by
      cases hf : fixed 4 year.toNat with
      | nil => simpa [hf] using Numeral.length_fixed 4 year.toNat
      | cons c cs => exact ⟨c, cs, rfl, isDigit_of_mem_fixed (hf ▸ List.mem_cons_self)⟩
    rw [hc, List.cons_append] at hread ⊢
    rw [takeYear?_of_isDigit hdigit, hread]
    simp; omega
  · rename_i h
    obtain ⟨digits, hdigits⟩ : ∃ ds, ds = List.replicate (4 - (Nat.toDigits 10 year.natAbs).length)
      '0' ++ Nat.toDigits 10 year.natAbs := ⟨_, rfl⟩
    have hall : ∀ c ∈ digits, c.isDigit = true := by
      intro c hc
      rw [hdigits, List.mem_append] at hc
      rcases hc with hc | hc
      · rw [List.eq_of_mem_replicate hc]; rfl
      · exact Nat.isDigit_of_mem_toDigits (by omega) (by omega) hc
    have hlen : 4 ≤ digits.length := by
      rw [hdigits, List.length_append, List.length_replicate]; omega
    have hval : number? digits = some year.natAbs := by
      rw [hdigits, number?_replicate, number?_toDigits]
    have hstop : ('-' :: rest).head?.all (!·.isDigit) = true := rfl
    obtain ⟨htake, hdrop⟩ := takeWhile_isDigit hall hstop
    simp only [← hdigits, List.cons_append]
    split
    all_goals
      simp only [takeYear?, htake, hdrop, hlen, ↓reduceIte, hval, Option.map_some,
        Option.some.injEq, Prod.mk.injEq, and_true, Int.ofNat_eq_natCast]
      omega

theorem takeFraction?_fractionText {i : Instant} {places : Nat} (h : i.Shows places) :
    takeFraction? (i.fractionText places ++ ['Z']) = some (i.fraction, ['Z']) := by
  obtain ⟨hplaces, hdvd⟩ := h
  have hlt := i.fraction_lt
  unfold fractionText
  split
  · rename_i hzero
    subst hzero
    have : i.fraction = 0 := Nat.eq_zero_of_dvd_of_lt hdvd hlt
    simp [takeFraction?, this]
  · rename_i hpos
    obtain ⟨n, hn⟩ := hdvd
    have hwidth : n < Nat.pow 10 places := by
      apply Nat.lt_of_mul_lt_mul_left (a := Nat.pow 10 (9 - places))
      rw [← billion_eq hplaces, ← hn]; exact hlt
    have hdiv : i.fraction / Nat.pow 10 (9 - places) = n := by
      rw [hn]; exact Nat.mul_div_cancel_left n (Nat.pow_pos (by omega))
    have hlen := Numeral.length_fixed places n
    have hdigits : ∀ c ∈ fixed places n, c.isDigit = true := fun c => isDigit_of_mem_fixed
    have hstop : ['Z'].head?.all (!·.isDigit) = true := rfl
    obtain ⟨htake, hdrop⟩ := takeWhile_isDigit hdigits hstop
    rw [hdiv, List.cons_append]
    simp only [takeFraction?, htake, hdrop, hlen, number?_fixed hwidth, Option.map_some]
    rw [if_pos ⟨by omega, hplaces⟩, hn, Nat.mul_comm]

-- ---------------------------------------------------------------------------
-- Whole texts
-- ---------------------------------------------------------------------------

theorem ofParts?_self (i : Instant) : ofParts? i.seconds i.nanos = some i := by
  simp [ofParts?, i.valid]

theorem read?_textWith {i : Instant} {places : Nat} (h : i.Shows places) :
    read? (i.textWith places) = some i := by
  have hdate : i.date.Exists := Date.ofDays_exists _
  have hdays : i.date.toDays = i.seconds / secondsPerDay := Date.toDays_ofDays _
  have hsod := i.secondOfDay_lt
  have hsecond := i.second_le
  have hsum := i.seconds_eq
  have hmonth := takeFixed?_after '-' (show i.date.month < Nat.pow 10 2 from i.month_lt)
  have hday := takeFixed?_after '-' (show i.date.day < Nat.pow 10 2 from i.day_lt)
  have hhour := takeFixed?_after 'T' (show i.secondOfDay / 3600 < Nat.pow 10 2 from
    show _ < 100 by omega)
  have hminute := takeFixed?_after ':' (show i.secondOfDay / 60 % 60 < Nat.pow 10 2 from
    show _ < 100 by omega)
  have hsec := takeFixed?_after ':' (show i.second < Nat.pow 10 2 from show _ < 100 by omega)
  simp only [read?, textWith, toSeconds, String.toList_ofList, List.append_assoc, List.cons_append,
    takeYear?_yearText, Option.bind_eq_bind, Option.bind_some, hmonth, hday, hhour, hminute, hsec,
    takeFraction?_fractionText h]
  rw [if_pos ⟨trivial, hdate, by omega, by omega, hsecond⟩, hdays]
  -- What was read is the instant again; only a leap second is read with the second 60.
  rcases i.nanos_eq with ⟨hlast, hnanos, hleap⟩ | ⟨hnanos, hplain⟩
  · rw [if_pos hleap, ← hnanos,
      show i.seconds / secondsPerDay * secondsPerDay + ((i.secondOfDay / 3600 : Nat) : Int) * 3600 +
        ((i.secondOfDay / 60 % 60 : Nat) : Int) * 60 + 59 = i.seconds by omega]
    exact i.ofParts?_self
  · rw [if_neg (by omega), ← hnanos,
      show i.seconds / secondsPerDay * secondsPerDay + ((i.secondOfDay / 3600 : Nat) : Int) * 3600 +
        ((i.secondOfDay / 60 % 60 : Nat) : Int) * 60 + (i.second : Int) = i.seconds by omega]
    exact i.ofParts?_self

theorem read?_stored (i : Instant) : read? i.stored = some i := read?_textWith i.shows_nine

-- ---------------------------------------------------------------------------
-- The fewest digits
-- ---------------------------------------------------------------------------

/-- The instant without what `places` digits leave out of its fraction. -/
def cutTo (i : Instant) (places : Nat) : Instant where
  seconds := i.seconds
  nanos := i.nanos / Nat.pow 10 (9 - places) * Nat.pow 10 (9 - places)
  valid := by
    have hle := Nat.div_mul_le_self i.nanos (Nat.pow 10 (9 - places))
    have hv := i.valid
    omega

variable {i : Instant} {places : Nat}

theorem fraction_cutTo (h : places ≤ 9) : (i.cutTo places).fraction =
    i.fraction / Nat.pow 10 (9 - places) * Nat.pow 10 (9 - places) := by
  simp only [fraction, cutTo]
  rw [billion_eq h, Nat.mod_mul_right_div_self, Nat.mul_comm _ (Nat.pow 10 (9 - places)),
    Nat.mul_mod_mul_left, Nat.mul_comm]

theorem second_cutTo (h : places ≤ 9) : (i.cutTo places).second = i.second := by
  have hpos : 0 < Nat.pow 10 (9 - places) := Nat.pow_pos (by decide)
  simp only [second, secondOfDay, cutTo]
  rw [billion_eq h, ← Nat.div_div_eq_div_mul, ← Nat.div_div_eq_div_mul, Nat.mul_div_cancel _ hpos]

theorem textWith_cutTo (h : places ≤ 9) : (i.cutTo places).textWith places = i.textWith places := by
  have hpos : 0 < Nat.pow 10 (9 - places) := Nat.pow_pos (by decide)
  have hseconds : (i.cutTo places).toSeconds = i.toSeconds := by
    rw [toSeconds, second_cutTo h]
    rfl
  have hfraction : (i.cutTo places).fractionText places = i.fractionText places := by
    rw [fractionText, fraction_cutTo h, Nat.mul_div_cancel _ hpos]
    rfl
  rw [textWith, hseconds, hfraction, textWith]

theorem shows_cutTo (h : places ≤ 9) : (i.cutTo places).Shows places := by
  refine ⟨h, ?_⟩
  rw [fraction_cutTo h]
  exact Nat.dvd_mul_left _ _

/-- A text is read as the instant without what its digits leave out. -/
theorem read?_textWith_cutTo (h : places ≤ 9) :
    read? (i.textWith places) = some (i.cutTo places) := by
  rw [← textWith_cutTo h, read?_textWith (shows_cutTo h)]

theorem shows_of_read? (h : places ≤ 9) (hread : read? (i.textWith places) = some i) :
    i.Shows places := by
  have hcut : i.cutTo places = i := by
    rw [read?_textWith_cutTo h] at hread
    exact Option.some.inj hread
  exact hcut ▸ shows_cutTo h

theorem shows_fewestPlaces (i : Instant) : i.Shows i.fewestPlaces := by
  unfold fewestPlaces Shows
  split
  · rename_i hzero
    rw [hzero]
    exact ⟨by decide, Nat.dvd_zero _⟩
  split
  · rename_i hthree
    exact ⟨by decide, Nat.dvd_of_mod_eq_zero hthree⟩
  split
  · rename_i hsix
    exact ⟨by decide, Nat.dvd_of_mod_eq_zero hsix⟩
  · exact i.shows_nine

theorem read?_shown (i : Instant) : read? i.shown = some i := read?_textWith i.shows_fewestPlaces

theorem shown_fewest (i : Instant) : i.fewestPlaces ∈ [0, 3, 6, 9] ∧
    ∀ places ∈ [0, 3, 6, 9], read? (i.textWith places) = some i → i.fewestPlaces ≤ places := by
  refine ⟨?_, fun places hplaces hread => ?_⟩
  · unfold fewestPlaces
    repeat' split
    all_goals decide
  · have hle : places ≤ 9 := by
      have : ∀ places ∈ [0, 3, 6, 9], places ≤ 9 := by decide
      exact this places hplaces
    have hmod := Nat.mod_eq_zero_of_dvd (shows_of_read? hle hread).2
    have hlt := i.fraction_lt
    have hzero : places = 0 → i.fraction % 1000000000 = 0 := by rintro rfl; exact hmod
    have hthree : places = 3 → i.fraction % 1000000 = 0 := by rintro rfl; exact hmod
    have hsix : places = 6 → i.fraction % 1000 = 0 := by rintro rfl; exact hmod
    simp only [List.mem_cons, List.not_mem_nil, or_false] at hplaces
    unfold fewestPlaces
    repeat' split
    all_goals omega

end Parley.Instant
