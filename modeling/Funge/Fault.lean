import Funge.Host
import Funge.Playfield

/-!
# Faults

Why and where a run failed. A fault is made from a cause, which has a kind and a message, and a
position; whoever makes it says which.
-/

namespace Funge

/-- Why a run failed. -/
inductive Cause where
  /-- A division or remainder by zero. -/
  | divisionByZero
  /-- The host could not supply a number or character. -/
  | input (fault : InputFault)
  /-- The instruction pointer, or an instruction, addressed a cell outside the playfield. -/
  | outOfBounds (access : OutOfBounds)
  /-- The host could not take output. -/
  | output (fault : DeviceFault)
  /-- The step budget is used up. -/
  | stepLimit (limit : UInt64)
deriving DecidableEq, Repr

/-- The kinds of causes. -/
inductive FaultKind where
  | divisionByZero
  | input
  | outOfBounds
  | output
  | stepLimit
deriving DecidableEq, Repr

/-- The word that names a kind of fault in a log. -/
def FaultKind.name : FaultKind → String
  | divisionByZero => "DivisionByZero"
  | input => "InputError"
  | outOfBounds => "OutOfBounds"
  | output => "OutputError"
  | stepLimit => "StepLimitExceeded"

namespace Cause

/-- The kind of a cause. -/
def kind : Cause → FaultKind
  | divisionByZero => .divisionByZero
  | input _ => .input
  | outOfBounds _ => .outOfBounds
  | output _ => .output
  | stepLimit _ => .stepLimit

/-- What to tell about a cause. -/
def message : Cause → String
  | divisionByZero => "division by zero"
  | input fault => "unable to read input: " ++ fault.message
  | outOfBounds access => access.message
  | output fault => "unable to write output: " ++ fault.text
  | stepLimit limit => s!"step limit of {limit} exceeded"

end Cause

/-- A failure of a run, as it is reported and stored. Its text is the message of its cause. -/
structure Fault where
  kind : FaultKind
  cause : Cause
  /-- Where the instruction pointer was. -/
  position : Position
deriving DecidableEq, Repr

/-- The fault that a cause makes at a position. -/
def Cause.faultAt (cause : Cause) (position : Position) : Fault := ⟨cause.kind, cause, position⟩

/-- What to tell about a fault, its position aside. -/
def Fault.message (fault : Fault) : String := fault.cause.message

@[simp] theorem Cause.kind_faultAt (cause : Cause) (p : Position) :
    (cause.faultAt p).kind = cause.kind := rfl

end Funge
