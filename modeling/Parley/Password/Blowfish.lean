import Parley.Password.PiBits

/-!
# The Blowfish cipher

A cipher on two words of thirty-two bits whose key is a schedule of words, and the ways of putting a
key and a salt into the schedule.
-/

namespace Parley.Password

structure Schedule where
  subkeys : Vector UInt32 18
  box0 : Vector UInt32 256
  box1 : Vector UInt32 256
  box2 : Vector UInt32 256
  box3 : Vector UInt32 256

namespace Schedule

/-- The digits of π, in the order of the parts. -/
def initial : Schedule where
  subkeys := .ofFn fun i => piDigits.get (i.castLE (by decide))
  box0 := .ofFn fun i => piDigits.get ((i.natAdd (18)).castLE (by decide))
  box1 := .ofFn fun i => piDigits.get ((i.natAdd (18 + 256)).castLE (by decide))
  box2 := .ofFn fun i => piDigits.get ((i.natAdd (18 + 512)).castLE (by decide))
  box3 := .ofFn fun i => piDigits.get ((i.natAdd (18 + 768)).castLE (by decide))

@[inline] def entry (box : Vector UInt32 256) (b : UInt8) : UInt32 :=
  box.get ⟨b.toNat, b.toNat_lt⟩

@[inline] def substitute (k : Schedule) (x : UInt32) : UInt32 :=
  ((entry k.box0 (x >>> 24).toUInt8 + entry k.box1 (x >>> 16).toUInt8) ^^^
    entry k.box2 (x >>> 8).toUInt8) + entry k.box3 x.toUInt8

def rounds (k : Schedule) (i : Nat) (l r : UInt32) : UInt32 × UInt32 :=
  if h : i < 16 then
    let l := l ^^^ k.subkeys[i]
    let r := r ^^^ k.substitute l
    let r := r ^^^ k.subkeys[i + 1]
    let l := l ^^^ k.substitute r
    rounds k (i + 2) l r
  else (r ^^^ k.subkeys[17], l ^^^ k.subkeys[16])
termination_by 16 - i

def encipher (k : Schedule) (l r : UInt32) : UInt32 × UInt32 := rounds k 0 l r

/-- Four words that are mixed into the pairs on their way, the first two and the last two by turns.
-/
structure Mask where
  a : UInt32
  b : UInt32
  c : UInt32
  d : UInt32

def Mask.zero : Mask := ⟨0, 0, 0, 0⟩

inductive Part where
  | subkeys
  | box0
  | box1
  | box2
  | box3

def Part.pairs : Part → Nat
  | .subkeys => 9
  | _ => 128

def put (k : Schedule) (part : Part) (i : Nat) (h : i < part.pairs) (l r : UInt32) : Schedule :=
  match part, h with
  | .subkeys, h =>
    have : i < 9 := h
    { k with subkeys := (k.subkeys.set (2 * i) l).set (2 * i + 1) r }
  | .box0, h =>
    have : i < 128 := h
    { k with box0 := (k.box0.set (2 * i) l).set (2 * i + 1) r }
  | .box1, h =>
    have : i < 128 := h
    { k with box1 := (k.box1.set (2 * i) l).set (2 * i + 1) r }
  | .box2, h =>
    have : i < 128 := h
    { k with box2 := (k.box2.set (2 * i) l).set (2 * i + 1) r }
  | .box3, h =>
    have : i < 128 := h
    { k with box3 := (k.box3.set (2 * i) l).set (2 * i + 1) r }

structure Filling where
  schedule : Schedule
  left : UInt32
  right : UInt32
  mask : Mask

/-- Fills a part from its `i`-th pair on: each pair is the one before it, masked and enciphered
under the schedule as it is by then. -/
def fill (part : Part) (i : Nat) (k : Schedule) (l r a b c d : UInt32) : Filling :=
  if h : i < part.pairs then
    let (l, r) := k.encipher (l ^^^ a) (r ^^^ b)
    fill part (i + 1) (k.put part i h l r) l r c d a b
  else ⟨k, l, r, ⟨a, b, c, d⟩⟩
termination_by part.pairs - i

def Filling.next (f : Filling) (part : Part) : Filling :=
  fill part 0 f.schedule f.left f.right f.mask.a f.mask.b f.mask.c f.mask.d

def refill (k : Schedule) (mask : Mask) : Schedule :=
  let f := (((Filling.mk k 0 0 mask).next .subkeys).next .box0).next .box1
  ((f.next .box2).next .box3).schedule

def mix (k : Schedule) (key : Vector UInt32 18) : Schedule :=
  { k with subkeys := k.subkeys.zipWith (· ^^^ ·) key }

def expand (k : Schedule) (key : Vector UInt32 18) : Schedule := (k.mix key).refill .zero

def expandSalted (k : Schedule) (key : Vector UInt32 18) (salt : Mask) : Schedule :=
  (k.mix key).refill salt

end Schedule
end Parley.Password
