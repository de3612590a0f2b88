import Funge.Host
import Funge.Text.Blank
import Funge.Text.CodePoint
import Funge.Text.Decimal
import Funge.Text.Lines
import Funge.Text.Utf8

/-!
# A console

The host that reads lines of text and writes text. Both kinds of reading share the current line:
characters are taken from it one at a time, the line feed included, and a number takes the whole
rest of it, or the next line when nothing but white space is left. So a line feed left over by
reading characters does not count as an empty line, while a line that is empty from its start does.

A line that is not UTF-8 is consumed and reported. Output goes to a sink, which can be full or can
refuse to pass on what it has taken.
-/

namespace Funge

/-- Where output goes: the bytes taken so far, how many it takes altogether, and whether it refuses
to pass them on. -/
structure Sink where
  taken : Array UInt8 := #[]
  capacity : Option Nat := none
  stuck : Bool := false
deriving DecidableEq, Repr

namespace Sink

/-- How many more bytes the sink takes out of a number of them. -/
def room (sink : Sink) (count : Nat) : Nat :=
  match sink.capacity with
  | none => count
  | some capacity => min count (capacity - sink.taken.size)

/-- Write bytes and pass them on. A sink without room for all of them takes the first ones. -/
def write (sink : Sink) (bytes : List UInt8) : Except DeviceFault Unit × Sink :=
  let room := sink.room bytes.length
  let after := { sink with taken := sink.taken ++ bytes.take room }
  if room < bytes.length then (.error ⟨"closed"⟩, after)
  else if sink.stuck then (.error ⟨"flush failed"⟩, after)
  else (.ok (), after)

end Sink

/-- A console: the bytes no line has been taken from yet, the rest of the current line, and the
sink of its output. -/
structure Console where
  unread : List UInt8
  pending : List Char := []
  sink : Sink := {}
deriving DecidableEq, Repr

namespace Console

/-- A console with the given input before anything is read or written. -/
def ofInput (input : List UInt8) (sink : Sink) : Console := { unread := input, sink := sink }

/-- The bytes written so far. -/
def written (c : Console) : List UInt8 := c.sink.taken.toList

/-- The text written so far, with U+FFFD where it is not UTF-8. -/
def output (c : Console) : String := String.ofList (Utf8.decodeLossy c.written)

/-! ### Input -/

/-- Take the next line, through its line feed. -/
def nextLine (c : Console) : Except InputFault (List Char) × Console :=
  let (line, rest) := Lines.cut 10 c.unread
  if line.isEmpty then (.error .endOfInput, c)
  else match Utf8.decode? line with
    | some text => (.ok text, { c with unread := rest })
    | none => (.error (.device ⟨"stream did not contain valid UTF-8"⟩), { c with unread := rest })

/-- The number on a line, white space around it aside. -/
def integerOn (line : List Char) : Except InputFault Int64 :=
  match Decimal.toInt64? (Blank.trim line) with
  | some v => .ok v
  | none => .error (.invalidInteger (String.ofList (Blank.trim line)))

/-- Read a number: from the rest of the current line, or from the next one if that rest is blank. -/
def readInteger (c : Console) : Except InputFault Int64 × Console :=
  let rest := { c with pending := [] }
  if Blank.trim c.pending = [] then
    let (line, after) := rest.nextLine
    (line.bind integerOn, after)
  else (integerOn c.pending, rest)

/-- Read a character: the next of the current line, or the first of the next one. -/
def readChar (c : Console) : Except InputFault Int64 × Console :=
  match c.pending with
  | char :: pending => (.ok (CodePoint.value char), { c with pending := pending })
  | [] =>
    match c.nextLine with
    | (.ok (char :: pending), after) => (.ok (CodePoint.value char), { after with pending := pending })
    | (.ok [], after) => (.error .endOfInput, after)
    | (.error fault, after) => (.error fault, after)

/-! ### Output -/

/-- Write a text. -/
def writeText (c : Console) (text : List Char) : Except DeviceFault Unit × Console :=
  let (result, sink) := c.sink.write (Utf8.encode text)
  (result, { c with sink := sink })

/-- Write a number as a decimal numeral, and a space after it. -/
def writeInteger (v : Int64) (c : Console) : Except DeviceFault Unit × Console :=
  c.writeText (Decimal.print v.toInt ++ [' '])

/-- Write the character that shows a value. -/
def writeChar (v : Int64) (c : Console) : Except DeviceFault Unit × Console :=
  c.writeText [CodePoint.shown v]

instance : Host Console where
  readInteger := readInteger
  readChar := readChar
  writeInteger := writeInteger
  writeChar := writeChar

end Console

end Funge
