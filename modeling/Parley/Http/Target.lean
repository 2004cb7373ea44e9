import Parley.Page
import Parley.Json.Scan

/-!
# Request targets

Path and query string, and the numbers in them.
-/

namespace Parley.Http

abbrev Bytes := List UInt8

def bytesOf (s : String) : Bytes := s.toUTF8.data.toList

def hexPair? (h l : UInt8) : Option UInt8 := do
  return .ofNat ((← Json.hexDigit? h) * 16 + (← Json.hexDigit? l))

/-- Decodes `%` and two hexadecimal digits to a byte; any other `%` stands for itself. -/
def percentDecode : Bytes → Bytes
  | [] => []
  | [a] => [a]
  | [a, b] => [a, b]
  | a :: h :: l :: rest =>
    match if a = 0x25 then hexPair? h l else none with
    | some b => b :: percentDecode rest
    | none => a :: percentDecode (h :: l :: rest)

-- ---------------------------------------------------------------------------
-- Parts of a target
-- ---------------------------------------------------------------------------

def withoutFragment (target : String) : List Char := target.toList.takeWhile (· != '#')

/-- Path and query string of a target. A target that does not begin with its path names a scheme and
a host before it, `scheme://host`; one that names only a host has no path. -/
def pathAndQuery (target : String) : List Char :=
  match withoutFragment target with
  | '/' :: rest => '/' :: rest
  | cs => ((cs.dropWhile (· != ':')).drop 3).dropWhile fun c => c != '/' && c != '?'

def pathOf (target : String) : List Char := (pathAndQuery target).takeWhile (· != '?')

def queryOf (target : String) : String :=
  String.ofList (((pathAndQuery target).dropWhile (· != '?')).drop 1)

/-- The parts of a path between slashes. A path begins with a slash, so the first part is empty. -/
def segments (target : String) : List String :=
  ((pathOf target).splitOn '/').map String.ofList

-- ---------------------------------------------------------------------------
-- Numbers in a path
-- ---------------------------------------------------------------------------

inductive PathFault where
  | badText
  | badNumber (text : String)
  deriving DecidableEq, Repr

def readId (segment : String) : Except PathFault Int :=
  match String.fromUTF8? ⟨(percentDecode (bytesOf segment)).toArray⟩ with
  | none => .error .badText
  | some text => (Numeral.readInt64 text.toList).mapError fun _ => .badNumber text

-- ---------------------------------------------------------------------------
-- Query strings
-- ---------------------------------------------------------------------------

def queryPairs (query : String) : List (Bytes × Bytes) :=
  (((bytesOf query).splitOn 0x26).filter fun part => !part.isEmpty).map fun part =>
    let decode (bs : Bytes) := percentDecode (bs.map fun b => if b = 0x2B then 0x20 else b)
    (decode (part.takeWhile (· != 0x3D)), decode ((part.dropWhile (· != 0x3D)).drop 1))

inductive QueryFault where
  | duplicate (name : String)
  | badNumber (fault : Numeral.Fault)
  deriving DecidableEq, Repr

def QueryFault.message : QueryFault → String
  | .duplicate name => s!"duplicate field `{name}`"
  | .badNumber fault => fault.message

def readBound (name : String) (bound : Option Int) (value : Bytes) :
    Except QueryFault (Option Int) :=
  if bound.isSome then .error (.duplicate name)
  else
    match Numeral.readInt64 (Numeral.ofBytes value) with
    | .ok n => .ok (some n)
    | .error fault => .error (.badNumber fault)

def readPage (page : PageRequest) : List (Bytes × Bytes) → Except QueryFault PageRequest
  | [] => .ok page
  | (name, value) :: rest =>
    if name = bytesOf "limit" then do
      readPage { page with limit := ← readBound "limit" page.limit value } rest
    else if name = bytesOf "offset" then do
      readPage { page with offset := ← readBound "offset" page.offset value } rest
    else readPage page rest

def pageRequest (target : String) : Except QueryFault PageRequest :=
  readPage ⟨none, none⟩ (queryPairs (queryOf target))

end Parley.Http
