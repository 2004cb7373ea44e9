import Parley.Text.Numeral
import Parley.Time.Date

/-!
# Instants

A point of time to the nanosecond, and its two texts. The stored form always has nine digits of a
second's fraction, so that texts sort as the instants do; the shown form has as few of them as lose
nothing. `Instant.read?` reads either form back.
-/

namespace Parley

/-- Seconds since 1970-01-01T00:00:00Z and nanoseconds into the second. A leap second is the second
half of the last second of a minute: its nanoseconds go on from one billion. -/
structure Instant where
  seconds : Int
  nanos : Nat
  valid : nanos < 1000000000 ∨ seconds % 60 = 59 ∧ nanos < 2000000000
  deriving DecidableEq

namespace Instant

def ofParts? (seconds : Int) (nanos : Nat) : Option Instant :=
  if h : nanos < 1000000000 ∨ seconds % 60 = 59 ∧ nanos < 2000000000 then
    some ⟨seconds, nanos, h⟩
  else none

def epoch : Instant := ⟨0, 0, .inl (by decide)⟩

def Before (a b : Instant) : Prop :=
  a.seconds < b.seconds ∨ a.seconds = b.seconds ∧ a.nanos < b.nanos

instance (a b : Instant) : Decidable (a.Before b) := inferInstanceAs (Decidable (_ ∨ _))

instance : LT Instant := ⟨Before⟩
instance : LE Instant := ⟨fun a b => ¬ b < a⟩
instance (a b : Instant) : Decidable (a < b) := inferInstanceAs (Decidable (a.Before b))
instance (a b : Instant) : Decidable (a ≤ b) := inferInstanceAs (Decidable (¬ _))

instance : Max Instant := ⟨fun a b => if a ≤ b then b else a⟩

def secondsPerDay : Int := 86400

def date (i : Instant) : Date := .ofDays (i.seconds / secondsPerDay)

def secondOfDay (i : Instant) : Nat := (i.seconds % secondsPerDay).toNat

/-- The second of the minute as it is written, 60 in a leap second. -/
def second (i : Instant) : Nat := i.secondOfDay % 60 + i.nanos / 1000000000

def fraction (i : Instant) : Nat := i.nanos % 1000000000

-- ---------------------------------------------------------------------------
-- Writing
-- ---------------------------------------------------------------------------

open Numeral (fixed)

/-- Four digits for the years 0 to 9999; a sign, and four digits or more, for the others. -/
def yearText (year : Int) : List Char :=
  if 0 ≤ year ∧ year ≤ 9999 then fixed 4 year.toNat
  else
    let digits := Nat.toDigits 10 year.natAbs
    (if 0 ≤ year then '+' else '-') :: (List.replicate (4 - digits.length) '0' ++ digits)

def toSeconds (i : Instant) : List Char :=
  yearText i.date.year ++ '-' :: fixed 2 i.date.month ++ '-' :: fixed 2 i.date.day ++
    'T' :: fixed 2 (i.secondOfDay / 3600) ++ ':' :: fixed 2 (i.secondOfDay / 60 % 60) ++
    ':' :: fixed 2 i.second

def fractionText (i : Instant) (places : Nat) : List Char :=
  if places = 0 then [] else '.' :: fixed places (i.fraction / Nat.pow 10 (9 - places))

/-- The fewest digits, in groups of three, that keep all of the fraction. -/
def fewestPlaces (i : Instant) : Nat :=
  if i.fraction = 0 then 0
  else if i.fraction % 1000000 = 0 then 3
  else if i.fraction % 1000 = 0 then 6
  else 9

def textWith (i : Instant) (places : Nat) : String :=
  String.ofList (i.toSeconds ++ i.fractionText places ++ ['Z'])

def stored (i : Instant) : String := i.textWith 9

def shown (i : Instant) : String := i.textWith i.fewestPlaces

-- ---------------------------------------------------------------------------
-- Reading
-- ---------------------------------------------------------------------------

def number? : List Char → Option Nat := go 0
where
  go (n : Nat) : List Char → Option Nat
    | [] => some n
    | c :: cs => (Numeral.digit? c).bind fun d => go (10 * n + d) cs

def takeFixed? (width : Nat) (cs : List Char) : Option (Nat × List Char) :=
  if width ≤ cs.length then (number? (cs.take width)).map (·, cs.drop width) else none

def expect? (c : Char) : List Char → Option (List Char)
  | d :: cs => if c = d then some cs else none
  | [] => none

def takeYear? : List Char → Option (Int × List Char)
  | '+' :: cs =>
    let digits := cs.takeWhile Char.isDigit
    if 4 ≤ digits.length then
      (number? digits).map fun n => (Int.ofNat n, cs.dropWhile Char.isDigit)
    else none
  | '-' :: cs =>
    let digits := cs.takeWhile Char.isDigit
    if 4 ≤ digits.length then
      (number? digits).map fun n => (-Int.ofNat n, cs.dropWhile Char.isDigit)
    else none
  | cs => (takeFixed? 4 cs).map fun (n, rest) => (Int.ofNat n, rest)

def takeFraction? : List Char → Option (Nat × List Char)
  | '.' :: cs =>
    let digits := cs.takeWhile Char.isDigit
    if 1 ≤ digits.length ∧ digits.length ≤ 9 then
      (number? digits).map fun n => (n * Nat.pow 10 (9 - digits.length), cs.dropWhile Char.isDigit)
    else none
  | cs => some (0, cs)

/-- Reads an RFC 3339 time that is given in UTC, with signed years outside 0 to 9999. The second 60
is the leap second after the second 59. -/
def read? (text : String) : Option Instant := do
  let (year, cs) ← takeYear? text.toList
  let (month, cs) ← expect? '-' cs >>= takeFixed? 2
  let (day, cs) ← expect? '-' cs >>= takeFixed? 2
  let (hour, cs) ← expect? 'T' cs >>= takeFixed? 2
  let (minute, cs) ← expect? ':' cs >>= takeFixed? 2
  let (second, cs) ← expect? ':' cs >>= takeFixed? 2
  let (nanos, cs) ← takeFraction? cs
  let date : Date := ⟨year, month, day⟩
  if cs = ['Z'] ∧ date.Exists ∧ hour < 24 ∧ minute < 60 ∧ second ≤ 60 then
    let seconds := date.toDays * secondsPerDay + hour * 3600 + minute * 60
    if second = 60 then ofParts? (seconds + 59) (nanos + 1000000000)
    else ofParts? (seconds + second) nanos
  else none

end Instant
end Parley
