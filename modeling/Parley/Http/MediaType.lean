import Parley.Http.Request

/-!
# Media types

Whether the type of a body says that the body is JSON: `application/json`, a type of the form
`application/…+json`, or `application/json+…`, with or without parameters.
-/

namespace Parley.Http

def isNameChar (c : Char) : Bool :=
  c.isAlphanum || "!#$%&'*+-.^_`|~".toList.contains c

def isQuotable (c : Char) : Bool := 0x1F < c.toNat && c.toNat != 0x7F

/-- Where the parameters of a media type have been read to. -/
inductive ParamState where
  | start
  | name
  | valueStart
  | value
  | quoteStart
  | quote
  | closed
  deriving DecidableEq, Repr

def ParamState.next : ParamState → Char → Option ParamState
  | .start, c => if c = ' ' then some .start else if isNameChar c then some .name else none
  | .name, c => if c = '=' then some .valueStart else if isNameChar c then some .name else none
  | .valueStart, c =>
    if c = '"' then some .quoteStart else if isNameChar c then some .value else none
  | .value, c => if c = ';' then some .start else if isNameChar c then some .value else none
  | .quoteStart, c => if isQuotable c then some .quote else none
  | .quote, c => if c = '"' then some .closed else if isQuotable c then some .quote else none
  | .closed, c => if c = ';' then some .start else if c = ' ' then some .closed else none

def ParamState.isEnd : ParamState → Bool
  | .start | .valueStart | .value | .closed => true
  | .name | .quoteStart | .quote => false

def paramsOk : ParamState → List Char → Bool
  | p, [] => p.isEnd
  | p, c :: cs =>
    match p.next c with
    | some p => paramsOk p cs
    | none => false

/-- The last suffix of a subtype and what stands before it: they are parted by the last plus sign
that is not the first character. -/
def splitSuffix (subtype : List Char) : List Char × Option (List Char) :=
  match subtype with
  | [] => ([], none)
  | c :: cs =>
    let suffix := cs.reverse.takeWhile (· != '+')
    match cs.reverse.dropWhile (· != '+') with
    | [] => (c :: cs, none)
    | _ :: before => (c :: before.reverse, some suffix.reverse)

def isJsonType (text : String) : Bool :=
  let cs := text.toList.map Char.toLower
  let type := cs.takeWhile isNameChar
  match cs.dropWhile isNameChar with
  | '/' :: rest =>
    let subtype := rest.takeWhile isNameChar
    let (base, suffix) := splitSuffix subtype
    let json := "json".toList
    type == "application".toList && (base == json || suffix == some json) &&
      match rest.dropWhile isNameChar with
      | [] => true
      | ';' :: params => paramsOk .start params
      | _ => false
  | _ => false

def Request.hasJsonBody (r : Request) : Bool := (r.textHeader? "content-type").any isJsonType

end Parley.Http
