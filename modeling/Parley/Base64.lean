/-!
# Base64

Bytes as text of six bits a character, over an alphabet that is a parameter. The alphabet of
ordinary use pads its text to whole groups of four; password hashes use an alphabet of their own
and no padding. Either way the bits of the last character that belong to no byte are zero, so each
byte string has exactly one text.
-/

namespace Parley.Base64

structure Alphabet where
  symbols : List Char
  length_symbols : symbols.length = 64
  nodup : symbols.Nodup

def Alphabet.standard : Alphabet where
  symbols := "ABCDEFGHIJKLMNOPQRSTUVWXYZabcdefghijklmnopqrstuvwxyz0123456789+/".toList
  length_symbols := by decide +kernel
  nodup := by decide +kernel

def Alphabet.passwords : Alphabet where
  symbols := "./ABCDEFGHIJKLMNOPQRSTUVWXYZabcdefghijklmnopqrstuvwxyz0123456789".toList
  length_symbols := by decide +kernel
  nodup := by decide +kernel

variable (α : Alphabet)

def Alphabet.value? (c : Char) : Option Nat := α.symbols.idxOf? c

def Alphabet.symbol (v : Nat) : Char := α.symbols.getD v 'A'

def sextets : List UInt8 → List Nat
  | [] => []
  | [a] => [a.toNat / 4, a.toNat % 4 * 16]
  | [a, b] => [a.toNat / 4, a.toNat % 4 * 16 + b.toNat / 16, b.toNat % 16 * 4]
  | a :: b :: c :: rest =>
    a.toNat / 4 :: (a.toNat % 4 * 16 + b.toNat / 16) :: (b.toNat % 16 * 4 + c.toNat / 64) ::
      c.toNat % 64 :: sextets rest

/-- Whether values end as bytes cut into six bits end: no group of one, and zeros in the bits that
belong to no byte. -/
def isWhole : List Nat → Bool
  | [] => true
  | [_] => false
  | [_, b] => b % 16 == 0
  | [_, _, c] => c % 4 == 0
  | _ :: _ :: _ :: _ :: rest => isWhole rest

def bytes : List Nat → List UInt8
  | a :: b :: c :: d :: rest =>
    .ofNat (a * 4 + b / 16) :: .ofNat (b % 16 * 16 + c / 4) :: .ofNat (c % 4 * 64 + d) ::
      bytes rest
  | [a, b, c] => [.ofNat (a * 4 + b / 16), .ofNat (b % 16 * 16 + c / 4)]
  | [a, b] => [.ofNat (a * 4 + b / 16)]
  | [_] => []
  | [] => []

def encode (bs : List UInt8) : List Char := (sextets bs).map α.symbol

def padding (length : Nat) : List Char := List.replicate ((4 - length % 4) % 4) '='

def encodePadded (bs : List UInt8) : List Char :=
  encode α bs ++ padding (encode α bs).length

def dropPadding (text : List Char) : List Char :=
  match text.reverse with
  | '=' :: '=' :: rest => rest.reverse
  | '=' :: rest => rest.reverse
  | _ => text

def isEncoded (text : List Char) : Bool :=
  text.length % 4 == 0 &&
    match (dropPadding text).mapM α.value? with
    | some values => isWhole values
    | none => false

/-- Why text without padding is not the text of any bytes: the code of the character at fault and
its place. -/
inductive Fault where
  | badSymbol (code offset : Nat)
  | badLastSymbol (code offset : Nat)
  | badPadding
  deriving DecidableEq, Repr

def Fault.message : Fault → String
  | .badSymbol code offset => s!"Invalid symbol {code}, offset {offset}."
  | .badLastSymbol code offset => s!"Invalid last symbol {code}, offset {offset}."
  | .badPadding => "Invalid padding"

/-- The values of text from the place `offset` on, or the first character that has none. A padding
character that completes a group is told apart: it is no symbol, but it is not misplaced. -/
def values (offset : Nat) : List Char → Except Fault (List Nat)
  | [] => .ok []
  | c :: rest =>
    match α.value? c with
    | some v => (values (offset + 1) rest).map (v :: ·)
    | none =>
      if c = '=' ∧ rest.isEmpty ∧ offset % 4 = 2 then .error .badPadding
      else .error (.badSymbol c.toNat offset)

def decode (text : List Char) : Except Fault (List UInt8) := do
  let vs ← values α 0 text
  if isWhole vs then .ok (bytes vs)
  else .error (.badLastSymbol ((text.getLast?.getD 'A').toNat) (text.length - 1))

end Parley.Base64
