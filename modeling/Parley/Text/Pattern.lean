/-!
# Patterns

Patterns on text in which `%` stands for any run of characters and `_` for any one, unless they
follow a backslash. ASCII letters match without regard to case; of the other characters each matches
only itself, but that two noncharacters are not told apart from the replacement character. A zero
character ends a pattern, and ends the text that is matched.
-/

namespace Parley.Pattern

/-- What one place of a pattern stands for. -/
inductive Glyph where
  | anyRun
  | anyOne
  | exactly (c : Char)
  deriving DecidableEq, Repr

def escapeChar : Char := '\\'

/-- Reads a pattern; `none` if an escape stands at its end. -/
def parse? : List Char → Option (List Glyph)
  | [] => some []
  | '%' :: rest => (parse? rest).map (.anyRun :: ·)
  | '_' :: rest => (parse? rest).map (.anyOne :: ·)
  | '\\' :: c :: rest => (parse? rest).map (.exactly c :: ·)
  | ['\\'] => none
  | c :: rest => (parse? rest).map (.exactly c :: ·)

/-- A character as it is compared: the noncharacters U+FFFE and U+FFFF are read as the replacement
character U+FFFD. -/
def asRead (c : Char) : Char := if c = '\uFFFE' ∨ c = '\uFFFF' then '\uFFFD' else c

def sameLetter (a b : Char) : Bool := (asRead a).toLower == (asRead b).toLower

def anyEnd (p : List Char → Bool) : List Char → Bool
  | [] => p []
  | c :: s => p (c :: s) || anyEnd p s

def matchesAll : List Glyph → List Char → Bool
  | [], s => s.isEmpty
  | .anyRun :: p, s => anyEnd (matchesAll p) s
  | .anyOne :: _, [] => false
  | .anyOne :: p, _ :: s => matchesAll p s
  | .exactly _ :: _, [] => false
  | .exactly a :: p, c :: s => sameLetter a c && matchesAll p s

def untilZero (s : List Char) : List Char := s.takeWhile (· != '\x00')

def isLike (text pattern : String) : Bool :=
  match parse? (untilZero pattern.toList) with
  | some p => matchesAll p (untilZero text.toList)
  | none => false

def escapeOnly (special : Char) (s : List Char) : List Char :=
  s.flatMap fun c => if c = special then [escapeChar, c] else [c]

/-- Text as a pattern that matches nothing else. Escapes are escaped first, while there are no others
than the text's own. -/
def escape (s : List Char) : List Char :=
  escapeOnly '_' (escapeOnly '%' (escapeOnly '\\' s))

def containing (term : String) : String :=
  String.ofList ('%' :: (escape term.toList ++ ['%']))

def maxBytes : Nat := 50000

end Parley.Pattern
