import Funge.Playfield
import Funge.Text.Decimal

/-!
# Dumps of a playfield

Two texts show a playfield. The plain one shows each cell by its character, row under row, so
different cells can look the same. The data dump is a JSON document, indented by two spaces, which
tells every cell apart: a blank is a bare string, any other cell an object with one field, named for
the sort of cell.
-/

namespace Funge

/-- A cell as an element of a JSON list that is indented by four spaces. -/
def Cell.json : Cell → List Char
  | .digit d => field "Digit" (Decimal.print d.toNat)
  | .instruction i => field "Op" (['\x22'] ++ i.name.toList ++ ['\x22'])
  | .other v => field "Character" (Decimal.print v.toInt)
  | .blank => "    \"Blank\"".toList
where
  /-- An object with one field. -/
  field (name : String) (value : List Char) : List Char :=
    "    \x7b\n      \"".toList ++ name.toList ++ "\": ".toList ++ value ++ "\n    \x7d".toList

namespace Playfield

/-- The characters of the plain dump: the rows, with a line feed between them. -/
def chars (f : Playfield) : List Char :=
  List.intercalate ['\n'] (f.rows.map fun row => row.map Cell.shown)

/-- The plain dump. -/
def text (f : Playfield) : String := String.ofList f.chars

/-- The characters of the data dump: width, height, and the cells row after row. -/
def jsonChars (f : Playfield) : List Char :=
  "\x7b\n  \"width\": ".toList ++ Decimal.print f.width ++
    ",\n  \"height\": ".toList ++ Decimal.print f.height ++
    ",\n  \"cells\": [\n".toList ++
    List.intercalate [',', '\n'] (f.cells.toList.map Cell.json) ++
    "\n  ]\n\x7d".toList

/-- The data dump. -/
def json (f : Playfield) : String := String.ofList f.jsonChars

end Playfield

end Funge
