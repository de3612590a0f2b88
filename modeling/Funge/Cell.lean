import Funge.Instruction
import Funge.Text.CodePoint

/-!
# Cells

One place of the playfield holds one cell. A program character becomes a cell by `Cell.ofChar`: a
digit, an instruction, a blank, or any other character by its code point. A running program also
stores values: `Cell.ofValue` reads a value that is a character's code point as that character and
keeps any other value as it is, so that what was stored is what is read back.

A cell can hold more than these two produce, for instance the code point of `+` as a mere
character, which does not add.
-/

namespace Funge

/-- What one place of the playfield holds. -/
inductive Cell where
  /-- A digit that pushes its value. -/
  | digit (value : UInt8)
  /-- An instruction. -/
  | instruction (instruction : Instruction)
  /-- A value without meaning as an instruction, most often the code point of a character. -/
  | other (value : Int64)
  /-- A space, or padding. -/
  | blank
deriving DecidableEq, Repr, Inhabited

namespace Cell

/-- The cell a program character becomes. -/
def ofChar (c : Char) : Cell :=
  if c.isDigit then digit (UInt8.ofNat (c.toNat - 48))
  else if c = ' ' then blank
  else match Instruction.ofGlyph? c with
    | some i => instruction i
    | none => other (CodePoint.value c)

/-- The cell a stored value becomes. -/
def ofValue (v : Int64) : Cell := ((CodePoint.char? v).map ofChar).getD (other v)

/-- The value a cell stands for when it is read as data. -/
def value : Cell → Int64
  | digit d => Int64.ofNat (48 + d.toNat)
  | instruction i => CodePoint.value i.glyph
  | other v => v
  | blank => CodePoint.value ' '

/-- The character that shows a cell. -/
def shown (cell : Cell) : Char := CodePoint.shown cell.value

theorem value_digit {c : Char} (h : c.isDigit = true) :
    (digit (UInt8.ofNat (c.toNat - 48))).value = CodePoint.value c := by
  obtain ⟨low, high⟩ := CodePoint.toNat_of_isDigit h
  have hd : (UInt8.ofNat (c.toNat - 48)).toNat = c.toNat - 48 := by
    rw [UInt8.toNat_ofNat']
    omega
  rw [value, hd, Nat.add_sub_cancel' low]
  rfl

/-- A program character is the value of its cell. -/
@[simp] theorem value_ofChar (c : Char) : (ofChar c).value = CodePoint.value c := by
  unfold ofChar
  split
  · next h => exact value_digit h
  · split
    · next h => rw [h]; rfl
    · split
      · next i h => exact congrArg CodePoint.value (Instruction.glyph_of_ofGlyph? h)
      · rfl

/-- A stored value is what is read back. -/
@[simp] theorem value_ofValue (v : Int64) : (ofValue v).value = v := by
  unfold ofValue
  cases h : CodePoint.char? v with
  | none => rfl
  | some c =>
    rw [Option.map_some, Option.getD_some, value_ofChar]
    exact CodePoint.value_of_char? h

@[simp] theorem shown_ofChar (c : Char) : (ofChar c).shown = c := by
  rw [shown, value_ofChar, CodePoint.shown_value]

@[simp] theorem ofValue_value (c : Char) : ofValue (CodePoint.value c) = ofChar c := by
  rw [ofValue, CodePoint.char?_value]
  rfl

end Cell

end Funge
