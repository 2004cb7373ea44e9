import Parley.Text.Alphanumeric
import Parley.Text.Blank

/-!
# Environment files

A file of `NAME=VALUE` lines that adds variables to an environment. Values may stand in quotes, hold
escapes, name other variables and be followed by a comment; an open quote or an escaped line end
joins a line to the next one.
-/

namespace Parley

/-- The readable variables, each name once. -/
abbrev Environment := List (String × String)

namespace EnvFile

open Text (isAlphanumeric isBlank)

-- ---------------------------------------------------------------------------
-- Lines
-- ---------------------------------------------------------------------------

def physicalLines (text : List Char) : List (List Char) := go [] text
where
  go (line : List Char) : List Char → List (List Char)
    | [] => if line.isEmpty then [] else [line.reverse]
    | '\n' :: rest => ('\n' :: line).reverse :: go [] rest
    | c :: rest => go (c :: line) rest

inductive Context where
  | plain
  | blank
  | escape
  | single
  | singleEscape
  | double
  | doubleEscape
  deriving DecidableEq, Repr

def Context.next : Context → Char → Option Context
  | .blank, '#' => none
  | .blank, '\\' | .plain, '\\' => some .escape
  | .blank, '"' | .plain, '"' => some .double
  | .blank, '\'' | .plain, '\'' => some .single
  | .blank, _ => some .plain
  | .plain, c => some (if isBlank c && c != '\n' && c != '\r' then .blank else .plain)
  | .escape, _ => some .plain
  | .single, '\\' => some .singleEscape
  | .single, '\'' => some .plain
  | .single, _ => some .single
  | .singleEscape, _ => some .single
  | .double, '\\' => some .doubleEscape
  | .double, '"' => some .plain
  | .double, _ => some .double
  | .doubleEscape, _ => some .double

/-- Goes through a line. Where a comment begins, the characters before it, last first, are the
line's. -/
def Context.through (before : List Char) : Context → List Char → List Char × Option Context
  | c, [] => (before, some c)
  | c, x :: rest =>
    match c.next x with
    | none => (before, none)
    | some c => c.through (x :: before) rest

def dropLineEnd (line : List Char) : List Char :=
  match line.reverse with
  | '\n' :: '\r' :: rest => rest.reverse
  | '\n' :: rest => rest.reverse
  | _ => line

/-- Joins physical lines to logical ones. A line that begins with `#` is no line, and neither is
what is still open at the end of the file. -/
def join (before : List Char) (context : Context) : List (List Char) → List (List Char)
  | [] => []
  | line :: rest =>
    let text := before ++ line
    if (text.dropWhile isBlank).head? = some '#' then join [] .plain rest
    else
      match context.through [] line with
      | (kept, none) => (before ++ kept.reverse) :: join [] .plain rest
      | (_, some .plain) => dropLineEnd text :: join [] .plain rest
      | (_, some context) => join text context rest

def logicalLines (text : String) : List (List Char) :=
  let text := match text.toList with
    | '\uFEFF' :: rest => rest
    | text => text
  join [] .plain (physicalLines text)

-- ---------------------------------------------------------------------------
-- Values
-- ---------------------------------------------------------------------------

/-- What the next character of a value stands in. The `quoted` of a state says whether that is
inside double quotes; `name` holds the characters of a variable's name, last first. -/
inductive State where
  | text (quoted : Bool)
  | escape (quoted : Bool)
  | name (quoted : Bool) (name : List Char)
  | bracedName (quoted : Bool) (name : List Char)
  | literal
  | ended
  deriving DecidableEq, Repr

def value? (lookup : String → String) (out : List Char) : State → List Char → Option String
  | .text false, [] | .escape false, [] | .ended, [] => some (String.ofList out.reverse)
  | .name false name, [] =>
    some (String.ofList out.reverse ++ lookup (String.ofList name.reverse))
  | _, [] => none
  | .ended, c :: rest =>
    if c = ' ' ∨ c = '\t' then value? lookup out .ended rest
    else if c = '#' then some (String.ofList out.reverse)
    else none
  | .escape q, c :: rest =>
    if c = '\\' ∨ c = '\'' ∨ c = '"' ∨ c = '$' ∨ c = ' ' then
      value? lookup (c :: out) (.text q) rest
    else if c = 'n' then value? lookup ('\n' :: out) (.text q) rest
    else none
  | .literal, c :: rest =>
    if c = '\'' then value? lookup out (.text false) rest
    else value? lookup (c :: out) .literal rest
  | .name q name, c :: rest =>
    if isAlphanumeric c then value? lookup out (.name q (c :: name)) rest
    else if c = '\x7b' ∧ name.isEmpty then value? lookup out (.bracedName q []) rest
    else
      let out := (lookup (String.ofList name.reverse)).toList.reverse ++ out
      if c = '$' then value? lookup out (.name q []) rest
      else value? lookup (c :: out) (.text q) rest
  | .bracedName q name, c :: rest =>
    if c = '\x7d' then
      value? lookup ((lookup (String.ofList name.reverse)).toList.reverse ++ out) (.text q) rest
    else value? lookup out (.bracedName q (c :: name)) rest
  | .text true, c :: rest =>
    if c = '$' then value? lookup out (.name true []) rest
    else if c = '"' then value? lookup out (.text false) rest
    else if c = '\\' then value? lookup out (.escape true) rest
    else value? lookup (c :: out) (.text true) rest
  | .text false, c :: rest =>
    if c = '$' then value? lookup out (.name false []) rest
    else if c = '\'' then value? lookup out .literal rest
    else if c = '"' then value? lookup out (.text true) rest
    else if c = '\\' then value? lookup out (.escape false) rest
    else if c = ' ' ∨ c = '\t' then value? lookup out .ended rest
    else value? lookup (c :: out) (.text false) rest

-- ---------------------------------------------------------------------------
-- Assignments
-- ---------------------------------------------------------------------------

inductive Line where
  | nothing
  | assign (name value : String)
  | malformed
  deriving DecidableEq, Repr

def isNameStart (c : Char) : Bool := c.isAlpha || c == '_'
def isNameChar (c : Char) : Bool := c.isAlphanum || c == '_' || c == '.'

def takeName? (line : List Char) : Option (String × List Char) :=
  if (line.head?.any isNameStart) then
    some (String.ofList (line.takeWhile isNameChar),
      (line.dropWhile isNameChar).dropWhile isBlank)
  else none

def assignment (lookup : String → String) (name : String) (rest : List Char) : Line :=
  match rest.dropWhile isBlank with
  | [] => .assign name ""
  | '#' :: _ => .assign name ""
  | rest =>
    match value? lookup [] (.text false) rest with
    | some value => .assign name value
    | none => .malformed

/-- Reads a line. The word `export` may stand before the name, and may be the name. -/
def Line.read (lookup : String → String) (line : List Char) : Line :=
  match ((line.reverse.dropWhile isBlank).reverse).dropWhile isBlank with
  | [] => .nothing
  | '#' :: _ => .nothing
  | line =>
    match takeName? line with
    | none => .malformed
    | some (name, '=' :: rest) => assignment lookup name rest
    | some ("export", rest) =>
      match takeName? rest with
      | some (name, '=' :: rest) => assignment lookup name rest
      | _ => .malformed
    | some _ => .malformed

/-- What a name stands for in an environment. Its entries are texts `NAME=VALUE`, and the name
stands for what follows `name=` in an entry that begins so: a name that itself holds an equals sign
reaches into a value. -/
def valueOf? (env : Environment) (name : String) : Option String :=
  let sought := name.toList ++ ['=']
  env.findSome? fun (entryName, value) =>
    let entry := entryName.toList ++ '=' :: value.toList
    if sought.isPrefixOf entry then some (String.ofList (entry.drop sought.length)) else none

/-- Adds the variables of lines to an environment. A variable that is set keeps its value. A name in
a value stands for the variable, or else for what an earlier line of the file (`seen`, last first)
says of it. A malformed line ends the file. -/
def apply (seen : Environment) (env : Environment) : List (List Char) → Environment
  | [] => env
  | line :: rest =>
    let lookup (name : String) := ((valueOf? env name).or (seen.lookup name)).getD ""
    match Line.read lookup line with
    | .nothing => apply seen env rest
    | .malformed => env
    | .assign name value =>
      let env := if (env.lookup name).isSome then env else env ++ [(name, value)]
      apply ((name, value) :: seen) env rest

def load (env : Environment) (text : String) : Environment := apply [] env (logicalLines text)

end EnvFile
end Parley
