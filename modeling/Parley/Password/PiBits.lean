/-!
# The binary digits of π

The words that a key schedule starts from are the digits of π after the point, thirty-two bits at a
time. They are computed in integers from π = 16·arctan(1/5) − 4·arctan(1/239).
-/

namespace Parley.Password

def piWords : Nat := 18 + 4 * 256

/-- Bits that are computed and dropped, so that rounding does not reach the digits in use. -/
def guardBits : Nat := 64

/-- The first `terms` terms of `power · (1/odd − 1/(odd+2)·q⁻¹ + 1/(odd+4)·q⁻² − …)`, each rounded
down. -/
def alternating (q : Nat) : (terms power odd : Nat) → Int
  | 0, _, _ => 0
  | terms + 1, power, odd => (power / odd : Nat) - alternating q terms (power / q) (odd + 2)

/-- The arctangent of `1/k` in units of `1/scale`. A term is less than a fourth of the one before
it, so no more than half as many terms as bits are above the unit. -/
def arctan (scale k : Nat) : Int := alternating (k * k) (Nat.log2 scale / 2 + 1) (scale / k) 1

@[irreducible]
def piScaled : Nat :=
  let scale := 1 <<< (32 * piWords + guardBits)
  (16 * arctan scale 5 - 4 * arctan scale 239).toNat >>> guardBits

def piDigits : Vector UInt32 piWords :=
  .ofFn fun i => .ofNat (piScaled >>> (32 * (piWords - 1 - i)))

end Parley.Password
