import Mathlib.Order.Defs.LinearOrder
import Parley.Proofs.Time.Text
import Parley.Time.Stamp

/-!
# The order of times and of their texts

Instants and stamps are linearly ordered, the first by time, the second by text. In the years that
four digits write, the two orders are the same (`Stamp.of_lt_of`), so what tables compare as text is
compared by time.
-/

namespace Parley

namespace Instant

open Numeral (fixed)

theorem lt_iff {a b : Instant} :
    a < b ↔ a.seconds < b.seconds ∨ a.seconds = b.seconds ∧ a.nanos < b.nanos := Iff.rfl

theorem le_iff {a b : Instant} :
    a ≤ b ↔ a.seconds < b.seconds ∨ a.seconds = b.seconds ∧ a.nanos ≤ b.nanos := by
  show ¬ (b < a) ↔ _
  rw [lt_iff]; omega

theorem ext_parts {a b : Instant} (hs : a.seconds = b.seconds) (hn : a.nanos = b.nanos) :
    a = b := by
  cases a; cases b; simp_all

instance : LinearOrder Instant where
  le_refl a := by rw [le_iff]; omega
  le_trans a b c := by simp only [le_iff]; omega
  lt_iff_le_not_ge a b := by simp only [le_iff, lt_iff]; omega
  le_antisymm a b := by
    simp only [le_iff]
    intro h1 h2
    exact ext_parts (by omega) (by omega)
  le_total a b := by simp only [le_iff]; omega
  toDecidableLE := inferInstance
  toDecidableLT := inferInstance
  toDecidableEq := inferInstance
  max_def a b := rfl

-- ---------------------------------------------------------------------------
-- Four-digit years
-- ---------------------------------------------------------------------------

/-- Four digits write the year. The stored texts of these times are of one length. -/
def FourDigitYear (i : Instant) : Prop := 0 ≤ i.date.year ∧ i.date.year ≤ 9999

instance (i : Instant) : Decidable i.FourDigitYear := inferInstanceAs (Decidable (_ ∧ _))

theorem FourDigitYear.max {a b : Instant} (ha : a.FourDigitYear) (hb : b.FourDigitYear) :
    (max a b).FourDigitYear := by
  rcases max_choice a b with h | h <;> rwa [h]

theorem toList_stored {i : Instant} (h : i.FourDigitYear) :
    i.stored.toList = fixed 4 i.date.year.toNat ++ '-' :: (fixed 2 i.date.month ++
      '-' :: (fixed 2 i.date.day ++ 'T' :: (fixed 2 (i.secondOfDay / 3600) ++
      ':' :: (fixed 2 (i.secondOfDay / 60 % 60) ++ ':' :: (fixed 2 i.second ++
      '.' :: (fixed 9 i.fraction ++ ['Z'])))))) := by
  have hyear : yearText i.date.year = fixed 4 i.date.year.toNat := if_pos h
  have hfraction : i.fractionText 9 = '.' :: fixed 9 i.fraction := by
    simp [fractionText]
  simp only [stored, textWith, String.toList_ofList, toSeconds, hyear, hfraction,
    List.append_assoc, List.cons_append]

theorem date_before_of_lt {a b : Instant} (h : a < b) :
    a.date.Before b.date ∨ a.date = b.date ∧ (a.secondOfDay < b.secondOfDay ∨
      a.secondOfDay = b.secondOfDay ∧ a.nanos < b.nanos) := by
  rw [lt_iff] at h
  rcases Int.lt_trichotomy (a.seconds / secondsPerDay) (b.seconds / secondsPerDay) with
    hday | hday | hday
  · exact .inl (Date.before_ofDays hday)
  · refine .inr ⟨congrArg Date.ofDays hday, ?_⟩
    simp only [secondOfDay, secondsPerDay] at hday ⊢
    omega
  · simp only [secondsPerDay] at hday
    omega

theorem clock_before_of_lt {a b : Instant} (h : a.secondOfDay < b.secondOfDay ∨
    a.secondOfDay = b.secondOfDay ∧ a.nanos < b.nanos) :
    a.secondOfDay / 3600 < b.secondOfDay / 3600 ∨ a.secondOfDay / 3600 = b.secondOfDay / 3600 ∧
      (a.secondOfDay / 60 % 60 < b.secondOfDay / 60 % 60 ∨
        a.secondOfDay / 60 % 60 = b.secondOfDay / 60 % 60 ∧
          (a.second < b.second ∨ a.second = b.second ∧ a.fraction < b.fraction)) := by
  have ha := a.nanos_eq
  have hb := b.nanos_eq
  have hla := a.fraction_lt
  have hlb := b.fraction_lt
  omega

theorem stored_lt_stored {a b : Instant} (ha : a.FourDigitYear) (hb : b.FourDigitYear)
    (h : a < b) : a.stored < b.stored := by
  have hyear : b.date.year.toNat < Nat.pow 10 4 := show _ < 10000 by have := hb.2; omega
  have hhour : b.secondOfDay / 3600 < Nat.pow 10 2 := show _ < 100 by have := b.secondOfDay_lt; omega
  have hminute : b.secondOfDay / 60 % 60 < Nat.pow 10 2 := show _ < 100 by omega
  have hsecond : b.second < Nat.pow 10 2 := show _ < 100 by have := b.second_le; omega
  have hfields : a.date.year.toNat < b.date.year.toNat ∨ a.date.year.toNat = b.date.year.toNat ∧
      (a.date.month < b.date.month ∨ a.date.month = b.date.month ∧
      (a.date.day < b.date.day ∨ a.date.day = b.date.day ∧
      (a.secondOfDay / 3600 < b.secondOfDay / 3600 ∨ a.secondOfDay / 3600 = b.secondOfDay / 3600 ∧
      (a.secondOfDay / 60 % 60 < b.secondOfDay / 60 % 60 ∨
        a.secondOfDay / 60 % 60 = b.secondOfDay / 60 % 60 ∧
          (a.second < b.second ∨ a.second = b.second ∧ a.fraction < b.fraction))))) := by
    rcases date_before_of_lt h with hdate | ⟨hdate, htime⟩
    · rcases hdate with hyear | ⟨hyear, hmonth | ⟨hmonth, hday⟩⟩
      · exact .inl ((Int.toNat_lt_toNat (ha.1.trans_lt hyear)).mpr hyear)
      · exact .inr ⟨by rw [hyear], .inl hmonth⟩
      · exact .inr ⟨by rw [hyear], .inr ⟨hmonth, .inl hday⟩⟩
    · rw [hdate]
      exact .inr ⟨rfl, .inr ⟨rfl, .inr ⟨rfl, clock_before_of_lt htime⟩⟩⟩
  rw [String.lt_iff, toList_stored ha, toList_stored hb]
  refine fixed_cons_lt hyear (hfields.imp_right (.imp_right fun h => ?_))
  refine fixed_cons_lt b.month_lt (h.imp_right (.imp_right fun h => ?_))
  refine fixed_cons_lt b.day_lt (h.imp_right (.imp_right fun h => ?_))
  refine fixed_cons_lt hhour (h.imp_right (.imp_right fun h => ?_))
  refine fixed_cons_lt hminute (h.imp_right (.imp_right fun h => ?_))
  refine fixed_cons_lt hsecond (h.imp_right (.imp_right fun h => ?_))
  exact fixed_append_lt b.fraction_lt (.inl h)

end Instant

namespace Stamp

theorem lt_iff {a b : Stamp} : a < b ↔ a.text < b.text := Iff.rfl

theorem le_iff {a b : Stamp} : a ≤ b ↔ a.text ≤ b.text := by
  show ¬ (b.text < a.text) ↔ _
  exact String.not_lt

theorem ext_text {a b : Stamp} (h : a.text = b.text) : a = b := by
  cases a; cases b; simp_all

instance : LinearOrder Stamp where
  le_refl a := le_iff.mpr (String.le_refl _)
  le_trans a b c := by simp only [le_iff]; exact String.le_trans
  lt_iff_le_not_ge a b := by
    simp only [le_iff, lt_iff]
    exact ⟨fun h => ⟨String.not_lt.mp (String.lt_asymm h), String.not_le.mpr h⟩, fun h =>
      String.not_le.mp h.2⟩
  le_antisymm a b := by
    simp only [le_iff]
    exact fun h1 h2 => ext_text (String.le_antisymm h1 h2)
  le_total a b := by simp only [le_iff]; exact String.le_total _ _
  toDecidableLE := inferInstance
  toDecidableLT := inferInstance
  toDecidableEq := inferInstance
  max_def a b := rfl

@[simp] theorem text_of (i : Instant) : (of i).text = i.stored := rfl

@[simp] theorem instant_of (i : Instant) : (of i).instant = i := by
  simp [instant, of, Instant.read?_stored]

@[simp] theorem of_instant (s : Stamp) : of s.instant = s := by
  obtain ⟨text, i, rfl⟩ := s
  exact congrArg of (instant_of i)

theorem of_lt_of_of_lt {a b : Instant} (ha : a.FourDigitYear) (hb : b.FourDigitYear)
    (h : a < b) : of a < of b := by
  have := Instant.stored_lt_stored ha hb h
  rwa [lt_iff, text_of, text_of]

theorem of_lt_of {a b : Instant} (ha : a.FourDigitYear) (hb : b.FourDigitYear) :
    of a < of b ↔ a < b := by
  refine ⟨fun h => ?_, of_lt_of_of_lt ha hb⟩
  rcases lt_trichotomy a b with hab | rfl | hba
  · exact hab
  · exact absurd h (lt_irrefl _)
  · exact absurd h (lt_asymm (of_lt_of_of_lt hb ha hba))

theorem of_le_of {a b : Instant} (ha : a.FourDigitYear) (hb : b.FourDigitYear) :
    of a ≤ of b ↔ a ≤ b := by
  rw [← not_lt, of_lt_of hb ha, not_lt]

def FourDigitYear (s : Stamp) : Prop := s.instant.FourDigitYear

theorem fourDigitYear_of {i : Instant} : (of i).FourDigitYear ↔ i.FourDigitYear := by
  rw [FourDigitYear, instant_of]

theorem FourDigitYear.max {a b : Stamp} (ha : a.FourDigitYear) (hb : b.FourDigitYear) :
    (max a b).FourDigitYear := by
  rcases max_choice a b with h | h <;> rwa [h]

theorem instant_le_instant {a b : Stamp} (ha : a.FourDigitYear) (hb : b.FourDigitYear) :
    a.instant ≤ b.instant ↔ a ≤ b := by
  rw [← of_le_of ha hb, of_instant, of_instant]

theorem instant_lt_instant {a b : Stamp} (ha : a.FourDigitYear) (hb : b.FourDigitYear) :
    a.instant < b.instant ↔ a < b := by
  rw [← of_lt_of ha hb, of_instant, of_instant]

theorem instant_inj {a b : Stamp} : a.instant = b.instant ↔ a = b := by
  refine ⟨fun h => ?_, congrArg _⟩
  rw [← of_instant a, h, of_instant]

theorem max_of {a : Stamp} (ha : a.FourDigitYear) (htime : time.FourDigitYear) :
    max a (of time) = of (max a.instant time) := by
  have hle : a.instant ≤ time ↔ a ≤ of time := by
    rw [← instant_le_instant ha (fourDigitYear_of.mpr htime), instant_of]
  rcases le_total a (of time) with h | h
  · rw [max_eq_right h, max_eq_right (hle.mpr h)]
  · rcases lt_or_eq_of_le h with hlt | heq
    · have hlater : time < a.instant := not_le.mp fun h => not_le_of_gt hlt (hle.mp h)
      rw [max_eq_left h, max_eq_left hlater.le, of_instant]
    · rw [← heq, max_self, instant_of, max_self]

theorem le_of_max {now : Instant} {s : Stamp} (hnow : now.FourDigitYear) (hs : s.FourDigitYear) :
    s ≤ of (Max.max now s.instant) := by
  rw [← instant_le_instant hs (fourDigitYear_of.mpr (hnow.max hs)), instant_of]
  exact le_max_right _ _

end Stamp
end Parley
