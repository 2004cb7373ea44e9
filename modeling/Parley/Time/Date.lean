/-!
# Dates

The civil calendar over all years, as a count of days from 1970-01-01 and back.

A year is counted from March, so that a leap day is the last day of its year. Every 400 such years
have the same number of days; within them a century, a group of four years and a year are found by
division, where the last of each kind may be a day longer than the others.
-/

namespace Parley

structure Date where
  year : Int
  month : Nat
  day : Nat
  deriving DecidableEq, Repr

namespace Date

abbrev cycleDays : Nat := 146097

/-- From the first of March of year 0 to 1970-01-01. -/
abbrev epochDays : Int := 719468

/-- Days from the first of March to the first day of the `month`-th month from March on. -/
def monthStart (month : Nat) : Nat := (153 * month + 2) / 5

def ofDays (days : Int) : Date :=
  let shifted := days + epochDays
  let cycle := shifted / cycleDays
  let inCycle := (shifted % cycleDays).toNat
  let century := min (inCycle / 36524) 3
  let inCentury := inCycle - century * 36524
  let group := min (inCentury / 1461) 24
  let inGroup := inCentury - group * 1461
  let single := min (inGroup / 365) 3
  let inYear := inGroup - single * 365
  let month := (5 * inYear + 2) / 153
  let year := cycle * 400 + (century * 100 + group * 4 + single : Nat)
  { year := if month < 10 then year else year + 1
    month := if month < 10 then month + 3 else month - 9
    day := inYear - monthStart month + 1 }

def toDays (d : Date) : Int :=
  let year := if d.month < 3 then d.year - 1 else d.year
  let month := if d.month < 3 then d.month + 9 else d.month - 3
  let inCycle := (year % 400).toNat
  year / 400 * cycleDays +
      (365 * inCycle + inCycle / 4 - inCycle / 100 + monthStart month + (d.day - 1) : Nat) -
    epochDays

def isLeap (year : Int) : Bool := year % 4 == 0 && (year % 100 != 0 || year % 400 == 0)

def daysInMonth (year : Int) (month : Nat) : Nat :=
  if month = 2 then if isLeap year then 29 else 28
  else if month = 4 ∨ month = 6 ∨ month = 9 ∨ month = 11 then 30
  else 31

def Exists (d : Date) : Prop :=
  1 ≤ d.month ∧ d.month ≤ 12 ∧ 1 ≤ d.day ∧ d.day ≤ daysInMonth d.year d.month

instance (d : Date) : Decidable d.Exists := inferInstanceAs (Decidable (_ ∧ _))

end Date
end Parley
