import Parley.Base64
import Parley.Text.Numeral
import Parley.Password.Digest

/-!
# Password hashes

The text that is kept of a password: version, cost, salt and digest, between dollar signs. A
password is verified by reading the text and making the digest again.
-/

namespace Parley.Password

inductive Fault where
  | badHash (text : String)
  | badVersion (text : String)
  | badCost (text : String)
  | costOutOfRange (cost : Nat)
  | badBase64 (fault : Base64.Fault)
  deriving DecidableEq, Repr

def minCost : Nat := 4
def maxCost : Nat := 31

def Fault.message : Fault → String
  | .badHash text => s!"Invalid hash: {text}"
  | .badVersion text => s!"Invalid Prefix: {text}"
  | .badCost text => s!"Invalid Cost: {text}"
  | .costOutOfRange cost => s!"Cost needs to be between 4 and 31, got {cost}"
  | .badBase64 fault => s!"Base64 error: {fault.message}"

/-- The versions of the format. They differ in faults of old programs, not in what they mean here.
-/
def versions : List String := ["2a", "2b", "2x", "2y"]

structure Hash where
  cost : Nat
  salt : List UInt8
  digest : List Char
  deriving DecidableEq, Repr

def saltLength : Nat := 22
def bodyLength : Nat := 53

def beginsChar (b : UInt8) : Bool := b &&& 0xC0 != 0x80

def parts (separator : Char) (text : String) : List String :=
  ((text.toList.splitOn separator).filter fun cs => !cs.isEmpty).map String.ofList

/-- Reads a hash text. Of several faults the first of this order is named: the number of parts, the
version, the cost as a number, the length, the salt, the range of the cost. -/
def Hash.read (text : String) : Except Fault Hash := do
  match parts '$' text with
  | [version, costText, body] =>
    if version ∉ versions then throw (.badVersion version)
    let cost ← (Numeral.readNat 0xFFFFFFFF costText.toList).mapError fun _ => .badCost costText
    let bytes := body.toUTF8.data.toList
    if bytes.length ≠ bodyLength ∨ (bytes[saltLength]?.any fun b => !beginsChar b) then
      throw (.badHash text)
    let codes := Numeral.ofBytes bytes
    let salt ← (Base64.decode .passwords (codes.take saltLength)).mapError .badBase64
    if cost < minCost ∨ maxCost < cost then throw (.costOutOfRange cost)
    return { cost, salt, digest := codes.drop saltLength }
  | _ => throw (.badHash text)

/-- Whether the password is the one of the hash text. A fault of the digest's characters is named
after all others. -/
def verify (password hash : String) : Except Fault Bool := do
  let h ← Hash.read hash
  let expected ← (Base64.decode .passwords h.digest).mapError .badBase64
  return expected == digest h.cost h.salt password

def defaultCost : Nat := 12

abbrev Salt := Vector UInt8 16

def hashWith (cost : Nat) (salt : Salt) (password : String) : String :=
  let encode (bs : List UInt8) := String.ofList (Base64.encode .passwords bs)
  "$2b$" ++ String.ofList (Numeral.fixed 2 cost) ++ "$" ++ encode salt.toList ++
    encode (digest cost salt.toList password)

def hash (salt : Salt) (password : String) : String := hashWith defaultCost salt password

end Parley.Password
