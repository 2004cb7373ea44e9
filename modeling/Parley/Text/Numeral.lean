/-!
# Decimal numerals

Reading an integer of a bounded range from decimal text. A reader goes through the text once, so of
several faults it names the first in reading order.
-/

namespace Parley.Numeral

inductive Fault where
  | empty
  | badDigit
  | tooLarge
  | tooSmall
  deriving DecidableEq, Repr

def Fault.message : Fault → String
  | .empty => "cannot parse integer from empty string"
  | .badDigit => "invalid digit found in string"
  | .tooLarge => "number too large to fit in target type"
  | .tooSmall => "number too small to fit in target type"

def digit? (c : Char) : Option Nat :=
  if c.isDigit then some (c.toNat - '0'.toNat) else none

/-- The value of the digits that follow `n`, if no value on the way exceeds `limit`. -/
def magnitude (limit : Nat) (overflow : Fault) (n : Nat) : List Char → Except Fault Nat
  | [] => .ok n
  | c :: cs =>
    match digit? c with
    | none => .error .badDigit
    | some d =>
      if 10 * n + d ≤ limit then magnitude limit overflow (10 * n + d) cs else .error overflow

def readNat (limit : Nat) : List Char → Except Fault Nat
  | [] => .error .empty
  | ['+'] => .error .badDigit
  | '+' :: cs => magnitude limit .tooLarge 0 cs
  | cs => magnitude limit .tooLarge 0 cs

def minInt64 : Int := -0x8000000000000000
def maxInt64 : Int := 0x7FFFFFFFFFFFFFFF

def readInt64 : List Char → Except Fault Int
  | [] => .error .empty
  | ['+'] => .error .badDigit
  | ['-'] => .error .badDigit
  | '+' :: cs => (magnitude maxInt64.toNat .tooLarge 0 cs).map Int.ofNat
  | '-' :: cs => (magnitude (-minInt64).toNat .tooSmall 0 cs).map fun n => -Int.ofNat n
  | cs => (magnitude maxInt64.toNat .tooLarge 0 cs).map Int.ofNat

/-- A byte sequence as characters of the same codes. Numerals are ASCII text, so they can be read
from bytes that are no text at all. -/
def ofBytes (bs : List UInt8) : List Char := bs.map fun b => Char.ofNat b.toNat

def fixed : Nat → Nat → List Char
  | 0, _ => []
  | width + 1, n => fixed width (n / 10) ++ [Nat.digitChar (n % 10)]

theorem length_fixed (width n : Nat) : (fixed width n).length = width := by
  induction width generalizing n with
  | zero => rfl
  | succ w ih => simp [fixed, ih]

end Parley.Numeral
