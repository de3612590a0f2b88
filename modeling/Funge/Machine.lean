import Funge.Fault
import Funge.Random
import Funge.Stack

/-!
# The machine

A machine is an instruction pointer on a playfield, a stack, and what decides how it goes on: the
string mode, the source of random directions, and the number of cells it may still execute. Its
state says whether it runs, has halted, or has failed, and next to it the machine keeps the fault it
failed with.
-/

namespace Funge

/-- What a machine is doing: it runs, has halted, or has failed for some kind of cause. -/
inductive State where
  | running
  | halted
  | failed (kind : FaultKind)
deriving DecidableEq, Repr

/-- A machine between two steps. -/
structure Machine where
  playfield : Playfield
  stack : Stack
  position : Position
  direction : Direction
  /-- Cells are pushed as data instead of being carried out. -/
  stringMode : Bool
  state : State
  /-- The fault the machine failed with. It is set together with the state of a failure. -/
  error : Option Fault
  generator : Generator
  /-- How many cells were executed so far. -/
  steps : Nat
  /-- How many cells may be executed altogether. -/
  budget : Option UInt64
deriving DecidableEq

namespace Machine

/-- A machine about to run a program from its top left corner, heading right. -/
def start (playfield : Playfield) (seed : UInt64) (budget : Option UInt64) : Machine where
  playfield := playfield
  stack := .empty
  position := .origin
  direction := .right
  stringMode := false
  state := .running
  error := none
  generator := .ofSeed seed
  steps := 0
  budget := budget

/-- The machine after it failed with a fault. -/
def failed (m : Machine) (fault : Fault) : Machine :=
  { m with state := .failed fault.kind, error := some fault }

/-- The machine with one more cell counted. -/
def count (m : Machine) : Machine := { m with steps := m.steps + 1 }

/-- The instruction pointer moves on by one cell. -/
def advance (m : Machine) : Machine := { m with position := m.position.next m.direction }

/-- Turn to a direction. -/
def turn (m : Machine) (direction : Direction) : Machine := { m with direction := direction }

/-- Put a value on the stack. -/
def push (m : Machine) (v : Int64) : Machine := { m with stack := m.stack.push v }

/-- Take a value off the stack. -/
def pop (m : Machine) : Int64 × Machine :=
  let (v, stack) := m.stack.pop
  (v, { m with stack := stack })

end Machine

end Funge
