import Parley.Json.Scan
import Parley.Json.Shortest
import Parley.Text.Quoted

/-!
# Kinds of JSON values

What a value is called where another kind of value was expected. Small integers are repeated as
they are; other numbers as the floating-point numbers they are read as.
-/

namespace Parley.Json

inductive Kind where
  | null
  | bool (b : Bool)
  | integer (n : Int)
  | float (text : String)
  | text (s : String)
  | sequence
  | map
  deriving DecidableEq, Repr

def Kind.describe : Kind → String
  | .null => "null"
  | .bool b => s!"boolean `{b}`"
  | .integer n => s!"integer `{n}`"
  | .float t => s!"floating point `{t}`"
  | .text s => s!"string {Text.quoted s}"
  | .sequence => "sequence"
  | .map => "map"

-- ---------------------------------------------------------------------------
-- Numbers
-- ---------------------------------------------------------------------------

/-- The greatest significand: further digits are only counted, or dropped after the point. -/
def maxSignificand : Nat := 0xFFFFFFFFFFFFFFFF

def appendDigits (significand appended : Nat) : Bytes → Nat × Nat
  | [] => (significand, appended)
  | d :: ds =>
    let next := significand * 10 + (d - code '0').toNat
    if next ≤ maxSignificand then appendDigits next (appended + 1) ds else (significand, appended)

/-- The greatest significand that is still an integer with a minus sign before it. -/
def maxNegated : Nat := 0x8000000000000000

def digitsValue (ds : Bytes) : Nat := ds.foldl (fun n d => n * 10 + (d - code '0').toNat) 0

/-- The greatest exponent that is read; a greater one is as good as infinite. -/
def maxExponent : Nat := 0x7FFFFFFF

/-- Scales a significand by a power of ten, in steps of at most `10 ^ 308`; `none` if the number is
out of range. Nothing is left of any significand after a few steps down. -/
def scale? : (steps : Nat) → Float → Int → Option Float
  | 0, f, _ => some f
  | steps + 1, f, e =>
    if e.natAbs ≤ 308 then
      if 0 ≤ e then
        let g := f * Float.ofScientific 1 false e.natAbs
        if g.isInf then none else some g
      else some (f / Float.ofScientific 1 false e.natAbs)
    else if f == 0 then some f
    else if 0 ≤ e then none
    else scale? steps (f / Float.ofScientific 1 false 308) (e + 308)

def Number.kind? (n : Number) : Option Kind :=
  let (whole, wholeTaken) := appendDigits 0 0 n.whole
  let dropped := n.whole.length - wholeTaken
  let signed (f : Float) := Kind.float (floatText (if n.negative then -f else f))
  if n.fraction.isEmpty ∧ n.exponent.isNone ∧ dropped = 0 ∧
      (!n.negative ∨ 0 < whole ∧ whole ≤ maxNegated) then
    some (.integer (if n.negative then -whole else whole))
  else
    let (significand, fractionTaken) := appendDigits whole 0 n.fraction
    let start : Int := dropped - fractionTaken
    let f := significand.toUInt64.toFloat
    match n.exponent with
    | none => (scale? 5 f start).map signed
    | some (negative, digits) =>
      let e := digitsValue digits
      if maxExponent < e then
        if significand ≠ 0 ∧ !negative then none else some (signed 0)
      else (scale? 5 f (if negative then start - e else start + e)).map signed

def kind? (s : Bytes) : Option Kind :=
  match s with
  | [] => none
  | b :: rest =>
    if b = code '"' then (takeString? rest).map fun (t, _) => .text t
    else if b = code '[' then some .sequence
    else if b = code '{' then some .map
    else if b = code 'n' then (afterWord? "null" s).map fun _ => .null
    else if b = code 't' then (afterWord? "true" s).map fun _ => .bool true
    else if b = code 'f' then (afterWord? "false" s).map fun _ => .bool false
    else (takeNumber? s).bind fun (n, _) => n.kind?

end Parley.Json
