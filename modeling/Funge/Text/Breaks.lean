import Funge.Text.Lines

/-!
# Line breaks on a page

Shown on a page, a text breaks after each of CR LF, CR, LF, U+000B, U+000C, U+0085, U+2028 and
U+2029. This is a finer division than the one into program rows, which breaks after LF only, so a
row of a program can take several lines on a page. As with rows, each line keeps what ends it and
nothing is lost (`flatten_lines`).
-/

namespace Funge.Breaks

/-- The characters that end a line on a page. -/
def isBreak (c : Char) : Bool :=
  c = '\n' || c = '\r' || c = '\x0b' || c = '\x0c' || c = '\u0085' || c = '\u2028' || c = '\u2029'

/-- The lines of a text on a page, each with what ends it. -/
def lines : List Char → List (List Char)
  | [] => []
  | '\r' :: '\n' :: rest => ['\r', '\n'] :: lines rest
  | c :: rest =>
    if isBreak c then [c] :: lines rest
    else match lines rest with
      | [] => [[c]]
      | line :: more => (c :: line) :: more

/-- The line that holds the character at an offset, as its index among the lines, with the
character's column in it. -/
def locate : List (List Char) → Nat → Option (Nat × Nat × List Char)
  | [], _ => none
  | line :: more, offset =>
    if offset < line.length then some (0, offset, line)
    else (locate more (offset - line.length)).map fun place => (place.1 + 1, place.2)

@[simp] theorem flatten_lines (text : List Char) : (lines text).flatten = text := by
  fun_induction lines text with
  | case1 => rfl
  | case2 rest ih => simp [ih]
  | case3 c rest _ _ ih => simp [ih]
  | case4 c rest _ _ h ih => simp_all
  | case5 c rest _ _ line more h ih => simp_all

end Funge.Breaks
