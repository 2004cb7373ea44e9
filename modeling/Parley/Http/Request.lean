import Parley.Text.Numeral

/-!
# Requests

A request as the server gets it, and what its header fields say.
-/

namespace Parley.Http

structure Request where
  method : String
  target : String
  headers : List (String × String)
  body : List UInt8
  deriving DecidableEq, Repr

def lowerCase (s : String) : List Char := s.toList.map Char.toLower

/-- The first field of a name; the case of names does not matter. -/
def Request.header? (r : Request) (name : String) : Option String :=
  (r.headers.find? fun (n, _) => lowerCase n == lowerCase name).map (·.2)

/-- Visible ASCII characters, space and tab: what a field's text may hold. -/
def isFieldChar (c : Char) : Bool := (0x20 ≤ c.toNat && c.toNat < 0x7F) || c == '\t'

def Request.textHeader? (r : Request) (name : String) : Option String :=
  (r.header? name).filter fun value => value.toList.all isFieldChar

def bearerScheme : List Char := "Bearer ".toList

def Request.bearerToken? (r : Request) : Option String :=
  (r.textHeader? "authorization").bind fun value =>
    let cs := value.toList
    let token := cs.drop bearerScheme.length
    if bearerScheme.isPrefixOf cs ∧ token ≠ [] then some (String.ofList token) else none

end Parley.Http
