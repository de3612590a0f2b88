import Funge.Command.Help
import Funge.Console
import Funge.Diagnostic
import Funge.Log
import Funge.Machine.Run
import Funge.Playfield.Dump
import Funge.SourceFile

/-!
# The command line program

What the program does for its arguments and its surroundings: an exit code, the bytes on standard
output, and the text on standard error. `begin` does everything that needs no run; for a program to
be run it gives a `Task`, which `Task.run` carries out and `Task.finish` settles. Output that was
written before a fault stays written.
-/

namespace Funge.Command

/-- How the program ended. -/
structure Outcome where
  code : UInt8
  stdout : List UInt8
  stderr : String
deriving DecidableEq, Repr

/-- What the program depends on besides its arguments. -/
structure Surroundings where
  /-- The files, by their names. -/
  files : String → SourceFile
  /-- The bytes on standard input. -/
  input : List UInt8
  /-- The rules for the log, if any are set. -/
  logRules : Option String
  /-- The seed to use when none is given. -/
  seed : UInt64
  /-- The time to write into the log. -/
  time : String

/-- The exit codes. -/
def Outcome.success : UInt8 := 0

/-- The program has no cell, or its run failed. -/
def Outcome.failure : UInt8 := 1

/-- The arguments ask for nothing. -/
def Outcome.usage : UInt8 := 64

/-- The program file cannot be read. -/
def Outcome.noInput : UInt8 := 74

/-- An outcome that only prints a text. -/
def Outcome.print (text : String) : Outcome :=
  ⟨Outcome.success, Utf8.encode text.toList, ""⟩

/-- The filter of the log: the rules that are set, as far as they are rules. -/
def filterFor (s : Surroundings) : Filter := (s.logRules.bind Filter.ofString?).getD .quiet

/-- The text and the playfield in a file, or the outcome when there is none. -/
def load (s : Surroundings) (file : String) : Except Outcome (String × Playfield) :=
  match (s.files file).text with
  | .error fault =>
    .error ⟨Outcome.noInput, [], s!"unable to read source file '{file}': {fault.message}\n"⟩
  | .ok source =>
    match Playfield.ofSource? source with
    | none => .error ⟨Outcome.failure, [], s!"Error: {file}: {LoadFault.empty.message}\n"⟩
    | some playfield => .ok (source, playfield)

/-- A program to be run. -/
structure Task where
  file : String
  source : String
  filter : Filter
  machine : Machine
  console : Console

namespace Task

/-- The task of running a loaded program. -/
def start (s : Surroundings) (file source : String) (playfield : Playfield)
    (seed budget : Option UInt64) (trace : Bool) : Task where
  file := file
  source := source
  filter := if trace then .everything else filterFor s
  machine := .start playfield (seed.getD s.seed) budget
  console := .ofInput s.input {}

/-- The next step of a machine takes a line from a console that has none. -/
def needsLine (m : Machine) (c : Console) : Bool :=
  c.unread.isEmpty && !m.stringMode &&
    match m.fetch with
    | .ok (.instruction .inputInteger) => (Blank.trim c.pending).isEmpty
    | .ok (.instruction .inputChar) => c.pending.isEmpty
    | _ => false

/-- The exit code for the answer of a run, and the report on its fault. -/
def finish (t : Task) : Except Fault Unit → UInt8 × String
  | .ok _ => (Outcome.success, "")
  | .error fault => (Outcome.failure, fault.diagnostic.render t.file t.source)

/-- The outcome of a task whose run has returned. -/
def outcome (t : Task) (time : String) (call : Call Machine Console Unit) : Outcome :=
  let (code, report) := t.finish call.answer
  { code := code
    stdout := call.host.written
    stderr := t.filter.log time (t.machine.playfield.loadEvent :: call.events) ++ report }

/-- Carry out a task; `none` if it takes more steps than given. -/
def run (t : Task) (fuel : Nat) (time : String) : Option Outcome :=
  (t.machine.callRun fuel t.console).map (t.outcome time)

end Task

/-- Show the playfield in a file. -/
def showGrid (s : Surroundings) (file : String) (json : Bool) : Outcome :=
  match load s file with
  | .error outcome => outcome
  | .ok (_, playfield) =>
    let text := if json then playfield.json else playfield.text
    { Outcome.print (text ++ "\n") with
      stderr := (filterFor s).log s.time [playfield.loadEvent] }

/-- Everything the program does before a run, or instead of one. -/
def begin (arguments : List String) (s : Surroundings) : Except Outcome Task :=
  match Request.ofArguments arguments with
  | .error fault => .error ⟨Outcome.usage, [], fault.text⟩
  | .ok (.help topic) => .error (.print topic.text)
  | .ok .version => .error (.print versionText)
  | .ok (.grid file json) => .error (showGrid s file json)
  | .ok (.run file seed budget trace) =>
    (load s file).map fun (source, playfield) => .start s file source playfield seed budget trace

/-- What the program does; `none` if a run takes more steps than given. -/
def perform (fuel : Nat) (arguments : List String) (s : Surroundings) : Option Outcome :=
  match begin arguments s with
  | .error outcome => some outcome
  | .ok task => task.run fuel s.time

end Funge.Command
