import Funge.Playfield
import Funge.Text.Utf8

/-!
# Program files

A program is read from a file that has to exist, has to hold bytes, and has to hold UTF-8. The text
is then loaded as a playfield, which fails only for a text without a single cell.
-/

namespace Funge

/-- Why no text could be read from a file. -/
inductive ReadFault where
  /-- Nothing has the name. -/
  | missing
  /-- The name is that of a directory. -/
  | directory
  /-- The name leads through a file as if it were a directory. -/
  | notDirectory
  | nameTooLong
  /-- The bytes in the file are no UTF-8. -/
  | notText
  /-- Any other failure, in the words of the device. -/
  | device (text : String)
deriving DecidableEq, Repr

/-- What to tell about a failure to read. -/
def ReadFault.message : ReadFault → String
  | missing => "No such file or directory (os error 2)"
  | directory => "Is a directory (os error 21)"
  | notDirectory => "Not a directory (os error 20)"
  | nameTooLong => "File name too long (os error 36)"
  | notText => "stream did not contain valid UTF-8"
  | device text => text

/-- What is found under a file name. -/
inductive SourceFile where
  /-- A file with these bytes. -/
  | bytes (content : List UInt8)
  /-- No file, or one whose bytes cannot be read. -/
  | unreadable (fault : ReadFault)
deriving DecidableEq, Repr

/-- Why a file did not become a playfield. -/
inductive LoadFault where
  /-- No text could be read. -/
  | unreadable (fault : ReadFault)
  /-- The text has no cell. -/
  | empty
deriving DecidableEq, Repr

/-- What to tell about a failure to load. -/
def LoadFault.message : LoadFault → String
  | unreadable fault => "IO error: " ++ fault.message
  | empty => "program is empty"

namespace SourceFile

/-- The text in a file. -/
def text : SourceFile → Except ReadFault String
  | unreadable fault => .error fault
  | bytes content =>
    match Utf8.decode? content with
    | some cs => .ok (String.ofList cs)
    | none => .error .notText

/-- The playfield in a file. -/
def load (file : SourceFile) : Except LoadFault Playfield := do
  let source ← file.text.mapError .unreadable
  match Playfield.ofSource? source with
  | some f => .ok f
  | none => .error .empty

end SourceFile

end Funge
