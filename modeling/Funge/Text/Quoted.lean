import Funge.Text.Extending
import Funge.Text.Graphic

/-!
# Quoted text

A text between double quotes, written so that every character can be seen: the quote, the backslash
and the common controls have two-character escapes, and every other character that would leave no
mark of its own, or would attach to the one before it, is given by its code point.
-/

namespace Funge.Quoted

/-- How one character is written inside quotes. -/
def escape (c : Char) : List Char :=
  if c = '\x00' then ['\\', '0']
  else if c = '\t' then ['\\', 't']
  else if c = '\r' then ['\\', 'r']
  else if c = '\n' then ['\\', 'n']
  else if c = '\x22' then ['\\', '\x22']
  else if c = '\\' then ['\\', '\\']
  else if Extending.isExtending c || !Graphic.isGraphic c then
    ['\\', 'u', '\x7b'] ++ Nat.toDigits 16 c.toNat ++ ['\x7d']
  else [c]

/-- A text in double quotes. -/
def quote (s : String) : String :=
  String.ofList (['\x22'] ++ s.toList.flatMap escape ++ ['\x22'])

end Funge.Quoted
