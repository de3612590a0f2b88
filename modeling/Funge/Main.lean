import Funge.Command

/-!
# The program

The outer layer of the command line program: it fetches what `Command.begin` depends on, and prints
the output and the log of a run while it goes on. A line is read from standard input only when the
next step needs one.
-/

namespace Funge.Program

/-- Why a file cannot be read, by the failure of the system. Some failures have the negative of
their number. -/
def readFault (fault : IO.Error) : ReadFault :=
  let isNumber := fun (code number : UInt32) => code = number || code = 0 - number
  match fault with
  | .noFileOrDirectory .. => .missing
  | .inappropriateType _ code _ =>
    if isNumber code 20 then .notDirectory
    else if isNumber code 21 then .directory
    else .device (toString fault)
  | .invalidArgument _ code _ =>
    if isNumber code 36 then .nameTooLong else .device (toString fault)
  | .permissionDenied .. => .device "Permission denied (os error 13)"
  | _ => .device (toString fault)

/-- What is found under a file name. -/
def find (name : String) : IO SourceFile := do
  try
    return .bytes (← IO.FS.readBinFile name).toList
  catch fault => return .unreadable (readFault fault)

/-- A line of a stream, through its line feed. -/
partial def readLine (stream : IO.FS.Stream) (line : List UInt8) : IO (List UInt8) := do
  match (← stream.read 1).toList with
  | [] => return line.reverse
  | b :: _ => if b = 10 then return (b :: line).reverse else readLine stream (b :: line)

/-- The time for the log: how long the system has been running. -/
def now : IO String := do
  let ms ← IO.monoMsNow
  return s!"\x1b[2m{ms}ms\x1b[0m"

/-- Run a task's machine until its run has an answer, from a state of it and of its console. -/
partial def follow (t : Command.Task) (m : Machine) (c : Console) : IO (Except Fault Unit) := do
  let c ← if Command.Task.needsLine m c then do
      let line ← readLine (← IO.getStdin) []
      pure { c with unread := line }
    else pure c
  let call := m.callStep c
  let log := t.filter.log (← now) call.events
  if log ≠ "" then (← IO.getStderr).putStr log
  if call.host.sink.taken.size > 0 then
    let stdout ← IO.getStdout
    stdout.write ⟨call.host.sink.taken⟩
    stdout.flush
  match Machine.runAnswer? call.answer with
  | some answer => return answer
  | none => follow t call.machine { call.host with sink := {} }

/-- The program with its arguments; the answer is the exit code. -/
def run (arguments : List String) : IO UInt8 := do
  let found ← match Command.Request.ofArguments arguments with
    | .ok request =>
      match request.file? with
      | some file => find file
      | none => pure (.unreadable .missing)
    | .error _ => pure (.unreadable .missing)
  let surroundings : Command.Surroundings :=
    { files := fun _ => found
      input := []
      logRules := ← IO.getEnv "RUST_LOG"
      seed := (← IO.getRandomBytes 8).toUInt64LE!
      time := ← now }
  match Command.begin arguments surroundings with
  | .error outcome =>
    (← IO.getStderr).putStr outcome.stderr
    (← IO.getStdout).write ⟨outcome.stdout.toArray⟩
    return outcome.code
  | .ok task =>
    (← IO.getStderr).putStr (task.filter.log (← now) [task.machine.playfield.loadEvent])
    let (code, report) := task.finish (← follow task task.machine task.console)
    (← IO.getStderr).putStr report
    return code

end Funge.Program

/-- The command line program. -/
def main (arguments : List String) : IO UInt32 := do
  return (← Funge.Program.run arguments).toUInt32
