/-!
# Shortest decimals

The text of a floating-point number: the fewest digits that are read back as the same number. They
are written in place for numbers of ordinary size and with an exponent for the others.
-/

namespace Parley.Json

/-- A positive floating-point number, `mantissa · 2 ^ exponent`, taken apart. The numbers that are
rounded to it lie between it and half way to its neighbours. The lower neighbour is only half as far
away where the mantissa is the least of its exponent. -/
structure Binary where
  mantissa : Nat
  exponent : Int
  nearBelow : Bool
  deriving DecidableEq, Repr

def Binary.ofBits (bits : UInt64) : Binary :=
  let fraction := (bits &&& 0xFFFFFFFFFFFFF).toNat
  let biased := ((bits >>> 52) &&& 0x7FF).toNat
  if biased = 0 then ⟨fraction, -1074, false⟩
  else ⟨fraction + 0x10000000000000, biased - 1075, fraction == 0 && biased != 1⟩

/-- Whether `c · 10 ^ k` is read back as the number. -/
def Binary.covers (b : Binary) (c : Nat) (k : Int) : Bool :=
  -- both sides in quarters of the unit `2 ^ exponent`, free of negative powers
  let left := 4 * c * Nat.pow 10 k.toNat * Nat.pow 2 (-b.exponent).toNat
  let unit := Nat.pow 10 (-k).toNat * Nat.pow 2 b.exponent.toNat
  let low := (4 * b.mantissa - if b.nearBelow then 1 else 2) * unit
  let high := (4 * b.mantissa + 2) * unit
  if b.mantissa % 2 = 0 then low ≤ left && left ≤ high else low < left && left < high

def Binary.onGrid (b : Binary) (k : Int) : Nat × Bool :=
  let num := b.mantissa * Nat.pow 2 b.exponent.toNat * Nat.pow 10 (-k).toNat
  let den := Nat.pow 2 (-b.exponent).toNat * Nat.pow 10 k.toNat
  let c := num / den
  let twice := 2 * (num % den)
  (c, den < twice || twice == den && c % 2 == 1)

/-- The digits and the power of ten of the shortest decimal that is read back as the number: the
first one that is found as grids get finer. -/
def Binary.search (b : Binary) : (steps : Nat) → (k : Int) → Nat × Int
  | 0, k => (0, k)
  | steps + 1, k =>
    let (c, upper) := b.onGrid k
    let first := if upper then c + 1 else c
    let second := if upper then c else c + 1
    if b.covers first k then (first, k)
    else if b.covers second k then (second, k)
    else b.search steps (k - 1)

/-- No number needs a grid coarser than `10 ^ 309` or finer than `10 ^ -324`. -/
def Binary.shortest (b : Binary) : Nat × Int := b.search 640 309

/-- The exponents of ten between which digits are written in place. -/
def minInPlace : Int := -5
def maxInPlace : Int := 15

/-- Digits `d₁d₂…` that stand for `d₁.d₂… · 10 ^ e`, with a point among them. -/
def placePoint (digits : List Char) (e : Int) : List Char :=
  if e < 0 then '0' :: '.' :: (List.replicate (-e - 1).toNat '0' ++ digits)
  else
    let before := e.toNat + 1
    if digits.length ≤ before then
      digits ++ List.replicate (before - digits.length) '0' ++ ['.', '0']
    else digits.take before ++ '.' :: digits.drop before

def withExponent (digits : List Char) (e : Int) : List Char :=
  let mantissa := match digits with
    | d :: (f :: fs) => d :: '.' :: f :: fs
    | ds => ds
  mantissa ++ 'e' :: (if e < 0 then '-' else '+') :: Nat.toDigits 10 e.natAbs

def floatText (x : Float) : String :=
  let bits := x.toBits
  let sign := if bits >>> 63 == 0 then [] else ['-']
  let b := Binary.ofBits bits
  let body :=
    if b.mantissa = 0 then ['0', '.', '0']
    else
      let (c, k) := b.shortest
      let digits := Nat.toDigits 10 c
      let e := k + (digits.length - 1 : Nat)
      if minInPlace ≤ e ∧ e ≤ maxInPlace then placePoint digits e else withExponent digits e
  String.ofList (sign ++ body)

end Parley.Json
