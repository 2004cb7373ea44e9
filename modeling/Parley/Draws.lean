import Parley.Password.Hash

/-!
# Random draws

What the server draws at random while it answers a request, and the texts that are made of it.
-/

namespace Parley

structure Draws where
  token : Vector (Fin 62) 32
  key : Vector UInt8 16
  salt : Password.Salt

namespace Draws

def letters : List Char :=
  "ABCDEFGHIJKLMNOPQRSTUVWXYZabcdefghijklmnopqrstuvwxyz0123456789".toList

def tokenText (d : Draws) : String :=
  String.ofList (d.token.toList.map fun i => letters.getD i.val 'A')

def isToken (s : String) : Bool := s.length == 32 && s.toList.all Char.isAlphanum

def hexByte (b : UInt8) : List Char :=
  [Nat.digitChar (b.toNat / 16), Nat.digitChar (b.toNat % 16)]

/-- A message key that is made for a client which gives none: a random UUID, whose version is 4 and
whose variant is the one of RFC 9562. -/
def keyText (d : Draws) : String :=
  let bytes := (d.key.set 6 (d.key[6] &&& 0x0F ||| 0x40)).set 8 (d.key[8] &&& 0x3F ||| 0x80)
  let group (start count : Nat) := ((bytes.toList.drop start).take count).flatMap hexByte
  String.ofList (group 0 4 ++ '-' :: group 4 2 ++ '-' :: group 6 2 ++ '-' :: group 8 2 ++
    '-' :: group 10 6)

end Draws
end Parley
