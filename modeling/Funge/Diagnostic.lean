import Funge.Fault
import Funge.Text.Breaks
import Funge.Text.Width

/-!
# Diagnostics

How a fault is shown to a user: a title with the kind of the fault and its position, and, when the
cell at the position was written in the program text, the line on the page that holds it with the
cell marked and the message under it. Cells that are padding, and positions off the playfield, are
reported by the title and the message alone.

`offset?` finds the cell in the text. It counts lines as the playfield does, after each line feed,
and takes the whole run of line feeds and carriage returns at the end of a line as its terminator.
-/

namespace Funge

/-- What is shown of a fault. -/
structure Diagnostic where
  kind : FaultKind
  message : String
  position : Position
deriving DecidableEq, Repr

/-- What is shown of a fault. -/
def Fault.diagnostic (fault : Fault) : Diagnostic := ⟨fault.kind, fault.message, fault.position⟩

/-- The words that begin the title of a diagnostic. -/
def FaultKind.label : FaultKind → String
  | divisionByZero => "Division by zero"
  | input => "Input"
  | outOfBounds => "Out of bounds"
  | output => "Output"
  | stepLimit => "Step limit"

namespace Diagnostic

/-! ### Finding the cell in the text -/

/-- How many characters of a line are cells: all but the line feeds and carriage returns at its
end. -/
def cellCount (line : List Char) : Nat :=
  (line.reverse.dropWhile fun c => c = '\n' || c = '\r').length

/-- The offset of a cell in a text that is cut into lines, each with its terminator. -/
def offsetIn : List (List Char) → Nat → Nat → Option Nat
  | [], _, _ => none
  | line :: _, 0, col => if col < cellCount line then some col else none
  | line :: more, row + 1, col => (offsetIn more row col).map (line.length + ·)

/-- The offset in a program text of the character that became the cell at a position. -/
def offset? (source : List Char) (p : Position) : Option Nat :=
  if 0 ≤ p.row ∧ 0 ≤ p.col then
    offsetIn (Lines.pieces '\n' source) p.row.toNat p.col.toNat
  else none

/-- The offsets in a program text, from the first to before the last, that a diagnostic marks for a
position: those of the one character that became the cell. -/
def range? (source : List Char) (p : Position) : Option (Nat × Nat) :=
  (offset? source p).map fun start => (start, start + 1)

/-! ### Colours -/

/-- Text in one of the 256 terminal colours. -/
def grey (colour : Nat) (text : String) : String := s!"\x1b[38;5;{colour}m{text}\x1b[0m"

/-- Text in red. -/
def red (text : String) : String := s!"\x1b[31m{text}\x1b[0m"

/-! ### The page -/

/-- The same text several times. -/
def times (count : Nat) (text : String) : String := String.join (List.replicate count text)

/-- The characters that show the character at an index of a line: itself, or spaces for a tab or
another white space. -/
def glyphs (index : Nat) (c : Char) : List Char :=
  if c = '\t' then List.replicate (Width.toTabStop index) ' '
  else if Blank.isBlank c then [' ']
  else [c]

/-- A line of the page, with the character at a column in red. -/
def quoted (line : List Char) (col : Nat) : String :=
  String.join (line.mapIdx fun i c =>
    String.join ((glyphs i c).map fun shown =>
      if i = col then red (String.singleton shown) else grey 249 (String.singleton shown)))

/-- The columns taken at an index of a line; past its end, one. -/
def columnsAt (text : List Char) (index : Nat) : Nat :=
  match text[index]? with
  | some c => Width.inLine index c
  | none => 1

/-- A mark over several columns: a head, and strokes after it. -/
def mark (head : String) (columns : Nat) : String :=
  if columns = 0 then "" else red head ++ times (columns - 1) (red "─")

/-- The row under a line that points at a column. -/
def pointer (line : List Char) (col : Nat) : String :=
  String.join ((List.range (col + 3)).map fun i =>
    if i = col then mark "┬" (columnsAt line i) else times (columnsAt line i) " ")

/-- The row under the pointer that leads from a column to the message. -/
def leader (line : List Char) (col : Nat) : String :=
  String.join ((List.range (col + 3)).map fun i =>
    if i < col then times (columnsAt line i) " "
    else if i = col then mark "╰" (columnsAt line i)
    else times (columnsAt line i) (red "─"))

/-- The title of a diagnostic. -/
def title (d : Diagnostic) : String := s!"{d.kind.label} error at {d.position}"

/-- The first word of every diagnostic. -/
def heading : String := red "Error:"

/-- A diagnostic that shows the place of its cell: the number of the line on the page, counted from
zero, the column in it, and the line itself. -/
def renderAt (d : Diagnostic) (file : String) (place : Nat × Nat × List Char) : String :=
  let (index, col, whole) := place
  let line := Blank.trimRight whole
  let number := toString (index + 1)
  let margin := times (number.length + 2) " "
  let corner := grey 246 "╭" ++ grey 246 "─" ++ grey 246 "["
  let location := s!" {file}:{number}:{col + 1} " ++ grey 246 "]"
  let numbered := " " ++ grey 246 (number ++ " │") ++ " "
  let gutter := " " ++ grey 240 (times (number.length + 1) " " ++ "│") ++ " "
  let rows := [
    heading ++ " " ++ d.title,
    margin ++ corner ++ location,
    margin ++ grey 246 "│",
    numbered ++ quoted line col,
    gutter ++ pointer line col,
    gutter ++ leader line col ++ " " ++ d.message,
    grey 246 (times (number.length + 2) "─" ++ "╯")]
  String.join (rows.map (· ++ "\n"))

/-- The text of a diagnostic for the program text in a file. -/
def render (d : Diagnostic) (file source : String) : String :=
  let marked := range? source.toList d.position
  match marked.bind fun range => Breaks.locate (Breaks.lines source.toList) range.1 with
  | some place => d.renderAt file place
  | none => heading ++ s!" {d.title}: {d.message}\n"

/-- A diagnostic on one line. -/
instance : ToString Diagnostic where
  toString d := s!"Runtime error at {d.position}: {d.message}"

end Diagnostic

end Funge
