import Parley.Text.Unprintable
import Parley.Text.GraphemeExtend

/-!
# Quoted text

Text between double quotes, as it stands in a message that repeats a value. Quotes, backslashes and
the common control characters are escaped by a backslash; what could not be seen or would join
another character is written as its code.
-/

namespace Parley.Text

def hex (n : Nat) : List Char := Nat.toDigits 16 n

/-- The sound marks of halfwidth kana. They extend the letter before them, but take a place of their
own beside it. -/
def isHalfwidthSoundMark (c : Char) : Bool := c == '\uFF9E' || c == '\uFF9F'

/-- The Hangul fillers: letters that show nothing. -/
def isFiller (c : Char) : Bool :=
  c == '\u115F' || c == '\u1160' || c == '\u3164' || c == '\uFFA0'

def isHidden (c : Char) : Bool :=
  isUnprintable c || isFiller c || (isGraphemeExtend c && !isHalfwidthSoundMark c)

def quotedChar (c : Char) : List Char :=
  match c with
  | '\x00' => ['\\', '0']
  | '\t' => ['\\', 't']
  | '\r' => ['\\', 'r']
  | '\n' => ['\\', 'n']
  | '"' => ['\\', '"']
  | '\\' => ['\\', '\\']
  | c =>
    if isHidden c then ['\\', 'u', '\x7b'] ++ hex c.toNat ++ ['\x7d'] else [c]

def quoted (s : String) : String :=
  String.ofList ('"' :: (s.toList.flatMap quotedChar ++ ['"']))

end Parley.Text
