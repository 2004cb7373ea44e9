import Mathlib.Tactic.IntervalCases
import Parley.Time.Date

/-!
# The calendar counts every day once

`toDays_ofDays`: the date of a day counts back to that day. `ofDays_exists`: it is a date of the
calendar. `before_ofDays`: a later day has a later date, by year, then month, then day.

All three go through the day within a year that begins in March. `daysBefore` counts the days before
such a year without splitting it into centuries, which is what arithmetic can reason about.
-/

namespace Parley.Date

/-- Days from the first of March of year 0 to the first of March of `year`. -/
def daysBefore (year : Int) : Int := 365 * year + year / 4 - year / 100 + year / 400

/-- Whether the year that begins in March has a day `inYear`, counted from zero. The leap day is the
last one and belongs to the next civil year. -/
def HasDay (year : Int) (inYear : Nat) : Prop :=
  inYear < 365 ∨ inYear = 365 ∧ isLeap (year + 1) = true

def ofMarch (year : Int) (inYear : Nat) : Date :=
  let month := (5 * inYear + 2) / 153
  { year := if month < 10 then year else year + 1
    month := if month < 10 then month + 3 else month - 9
    day := inYear - monthStart month + 1 }

theorem isLeap_iff (year : Int) :
    isLeap year = true ↔ year % 4 = 0 ∧ (year % 100 ≠ 0 ∨ year % 400 = 0) := by
  simp [isLeap]

theorem daysBefore_parts {century group single : Nat} (cycle : Int) (hc : century ≤ 3)
    (hg : group ≤ 24) (hs : single ≤ 3) :
    daysBefore (cycle * 400 + (century * 100 + group * 4 + single : Nat)) =
      146097 * cycle + 36524 * century + 1461 * group + 365 * single := by
  obtain ⟨year, hyear⟩ : ∃ y, y = cycle * 400 + (century * 100 + group * 4 + single : Nat) :=
    ⟨_, rfl⟩
  have h4 : year / 4 = 100 * cycle + 25 * century + group := by omega
  have h100 : year / 100 = 4 * cycle + century := by omega
  have h400 : year / 400 = cycle := by omega
  rw [← hyear, daysBefore, h4, h100, h400]
  omega

theorem ofDays_eq_ofMarch (days : Int) : ∃ year inYear, ofDays days = ofMarch year inYear ∧
    HasDay year inYear ∧ days + epochDays = daysBefore year + inYear := by
  have hcycle : 0 ≤ (days + epochDays) % cycleDays ∧ (days + epochDays) % cycleDays < 146097 := by
    simp only [cycleDays]; omega
  obtain ⟨inCycle, hin⟩ := Int.eq_ofNat_of_zero_le hcycle.1
  have hlt : inCycle < 146097 := by omega
  have hdays : days + epochDays = (days + epochDays) / cycleDays * 146097 + inCycle := by
    simp only [cycleDays] at hin ⊢; omega
  generalize hq : (days + epochDays) / cycleDays = cycle at hdays
  -- Each split leaves a rest that may be a day longer than the others of its kind.
  obtain ⟨century, hcentury⟩ : ∃ c, c = min (inCycle / 36524) 3 := ⟨_, rfl⟩
  obtain ⟨inCentury, hinCentury⟩ : ∃ r, r = inCycle - century * 36524 := ⟨_, rfl⟩
  obtain ⟨group, hgroup⟩ : ∃ g, g = min (inCentury / 1461) 24 := ⟨_, rfl⟩
  obtain ⟨inGroup, hinGroup⟩ : ∃ r, r = inCentury - group * 1461 := ⟨_, rfl⟩
  obtain ⟨single, hsingle⟩ : ∃ s, s = min (inGroup / 365) 3 := ⟨_, rfl⟩
  obtain ⟨inYear, hinYear⟩ : ∃ r, r = inGroup - single * 365 := ⟨_, rfl⟩
  have h1 : inCycle = 36524 * century + inCentury ∧ century ≤ 3 ∧
      (inCentury < 36524 ∨ inCentury = 36524 ∧ century = 3) := by omega
  have h2 : inCentury = 1461 * group + inGroup ∧ group ≤ 24 ∧ inGroup < 1461 ∧
      (inCentury < 36524 → group = 24 → inGroup < 1460) := by omega
  have h3 : inGroup = 365 * single + inYear ∧ single ≤ 3 ∧
      (inYear < 365 ∨ inYear = 365 ∧ inGroup = 1460) := by omega
  refine ⟨cycle * 400 + (century * 100 + group * 4 + single : Nat), inYear, ?_, ?_, ?_⟩
  · simp only [ofDays, hin, hq, Int.toNat_natCast, ← hcentury, ← hinCentury, ← hgroup,
      ← hinGroup, ← hsingle, ← hinYear, ofMarch]
  · rcases h3.2.2 with h | ⟨h, hlast⟩
    · exact .inl h
    · refine .inr ⟨h, (isLeap_iff _).mpr ?_⟩
      have hs : single = 3 := by omega
      by_cases hg : group = 24 <;> omega
  · rw [daysBefore_parts cycle h1.2.1 h2.2.1 h3.2.1]; omega

theorem toDays_ofMarch {year : Int} {inYear : Nat} (h : HasDay year inYear) :
    (ofMarch year inYear).toDays + epochDays = daysBefore year + inYear := by
  have hin : inYear ≤ 365 := by rcases h with h | h <;> omega
  have hyear : year / 400 * cycleDays + ((365 * (year % 400).toNat + (year % 400).toNat / 4 -
      (year % 400).toNat / 100 : Nat) : Int) = daysBefore year := by
    simp only [daysBefore, cycleDays]; omega
  obtain ⟨month, hmonth⟩ : ∃ m, m = (5 * inYear + 2) / 153 := ⟨_, rfl⟩
  have hstart : monthStart month ≤ inYear := by simp only [monthStart]; omega
  have hm : month ≤ 11 := by omega
  simp only [ofMarch, toDays, ← hmonth]
  by_cases hlate : month < 10
  · simp only [hlate, ↓reduceIte, show ¬ month + 3 < 3 by omega, Nat.add_sub_cancel]
    omega
  · simp only [hlate, ↓reduceIte, show month - 9 < 3 by omega, Int.add_sub_cancel,
      show month - 9 + 9 = month by omega]
    omega

theorem exists_ofMarch {year : Int} {inYear : Nat} (h : HasDay year inYear) :
    (ofMarch year inYear).Exists := by
  have hin : inYear ≤ 365 := by rcases h with h | h <;> omega
  obtain ⟨month, hmonth⟩ : ∃ m, m = (5 * inYear + 2) / 153 := ⟨_, rfl⟩
  have hm : month ≤ 11 := by omega
  have hstart : monthStart month ≤ inYear := by simp only [monthStart]; omega
  simp only [ofMarch, Exists, ← hmonth]
  refine ⟨by split <;> omega, by split <;> omega, by omega, ?_⟩
  have hnext : inYear < monthStart (month + 1) := by simp only [monthStart]; omega
  rcases Nat.lt_or_eq_of_le hm with hlt | rfl
  · interval_cases month <;> simp [daysInMonth, monthStart] at hnext ⊢ <;> omega
  · simp only [daysInMonth, monthStart] at hnext ⊢
    rcases h with h | ⟨h, hleap⟩
    · have : 28 ≤ if isLeap (year + 1) then 29 else 28 := by split <;> omega
      simp; omega
    · simp [hleap]; omega

theorem toDays_ofDays (days : Int) : (ofDays days).toDays = days := by
  obtain ⟨year, inYear, h, hday, hcount⟩ := ofDays_eq_ofMarch days
  have := toDays_ofMarch hday
  rw [h]; omega

theorem ofDays_exists (days : Int) : (ofDays days).Exists := by
  obtain ⟨year, inYear, h, hday, -⟩ := ofDays_eq_ofMarch days
  exact h ▸ exists_ofMarch hday

def Before (a b : Date) : Prop :=
  a.year < b.year ∨ a.year = b.year ∧ (a.month < b.month ∨ a.month = b.month ∧ a.day < b.day)

theorem ofMarch_before_of_lt {year : Int} {i j : Nat} (hij : i < j) :
    (ofMarch year i).Before (ofMarch year j) := by
  simp only [ofMarch, Before, monthStart]
  split <;> split <;> omega

theorem ofMarch_before_of_year_lt {y z : Int} {i j : Nat} (hyz : y < z) (hi : i ≤ 365)
    (hj : j ≤ 365) : (ofMarch y i).Before (ofMarch z j) := by
  simp only [ofMarch, Before]
  split <;> split <;> omega

theorem daysBefore_mono {y z : Int} (h : y ≤ z) : daysBefore y ≤ daysBefore z := by
  simp only [daysBefore]; omega

theorem HasDay.lt_daysBefore {year : Int} {inYear : Nat} (h : HasDay year inYear) :
    daysBefore year + inYear < daysBefore (year + 1) := by
  rcases h with h | ⟨h, hleap⟩
  · simp only [daysBefore]; omega
  · rw [isLeap_iff] at hleap
    simp only [daysBefore]; omega

theorem before_ofDays {a b : Int} (h : a < b) : (ofDays a).Before (ofDays b) := by
  obtain ⟨y, i, hy, hi, ha⟩ := ofDays_eq_ofMarch a
  obtain ⟨z, j, hz, hj, hb⟩ := ofDays_eq_ofMarch b
  have hi' : i ≤ 365 := by rcases hi with h | h <;> omega
  have hj' : j ≤ 365 := by rcases hj with h | h <;> omega
  rw [hy, hz]
  rcases Int.lt_trichotomy y z with hlt | rfl | hgt
  · exact ofMarch_before_of_year_lt hlt hi' hj'
  · exact ofMarch_before_of_lt (by omega)
  · -- A later year begins after every day of an earlier one.
    have h1 := hj.lt_daysBefore
    have h2 := daysBefore_mono (show z + 1 ≤ y by omega)
    omega

end Parley.Date
