/-!
# Instructions

The twenty-six instructions of Befunge-93. Each is written in a program as one character, its
glyph, and a character is found to be the glyph of one (`glyph_of_ofGlyph?`).
-/

namespace Funge

/-- The instructions a cell can hold. -/
inductive Instruction where
  | add
  | subtract
  | multiply
  | divide
  | modulo
  | not
  | greater
  | right
  | left
  | up
  | down
  | random
  | horizontalIf
  | verticalIf
  | stringMode
  | bridge
  | halt
  | duplicate
  | swap
  | discard
  | outputInteger
  | outputChar
  | inputInteger
  | inputChar
  | put
  | get
deriving DecidableEq, Repr, Inhabited

namespace Instruction

/-- The character that writes an instruction. -/
def glyph : Instruction → Char
  | add => '+'
  | subtract => '-'
  | multiply => '*'
  | divide => '/'
  | modulo => '%'
  | not => '!'
  | greater => '\x60'
  | right => '>'
  | left => '<'
  | up => '^'
  | down => 'v'
  | random => '?'
  | horizontalIf => '_'
  | verticalIf => '|'
  | stringMode => '\x22'
  | bridge => '#'
  | halt => '@'
  | duplicate => ':'
  | swap => '\\'
  | discard => '$'
  | outputInteger => '.'
  | outputChar => ','
  | inputInteger => '&'
  | inputChar => '~'
  | put => 'p'
  | get => 'g'

/-- The word that names an instruction in a data dump. -/
def name : Instruction → String
  | add => "Add"
  | subtract => "Subtract"
  | multiply => "Multiply"
  | divide => "Divide"
  | modulo => "Modulo"
  | not => "Not"
  | greater => "Greater"
  | right => "Right"
  | left => "Left"
  | up => "Up"
  | down => "Down"
  | random => "Random"
  | horizontalIf => "HorizontalIf"
  | verticalIf => "VerticalIf"
  | stringMode => "StringMode"
  | bridge => "Bridge"
  | halt => "Halt"
  | duplicate => "Duplicate"
  | swap => "Swap"
  | discard => "Discard"
  | outputInteger => "OutputInteger"
  | outputChar => "OutputChar"
  | inputInteger => "InputInteger"
  | inputChar => "InputChar"
  | put => "Put"
  | get => "Get"

/-- Every instruction, in the order of their groups: arithmetic, control, stack, input and output,
and the two that address the playfield. -/
def all : List Instruction :=
  [add, subtract, multiply, divide, modulo, not, greater, right, left, up, down, random,
    horizontalIf, verticalIf, stringMode, bridge, halt, duplicate, swap, discard, outputInteger,
    outputChar, inputInteger, inputChar, put, get]

/-- The instruction a character writes, if it writes one. -/
def ofGlyph? (c : Char) : Option Instruction := all.find? fun i => i.glyph = c

theorem mem_all (i : Instruction) : i ∈ all := by cases i <;> decide

theorem glyph_of_ofGlyph? {c : Char} {i : Instruction} (h : ofGlyph? c = some i) :
    i.glyph = c := by
  simpa using List.find?_some h

end Instruction

end Funge
