import Funge.Fault

/-!
# Events

What a program run reports while it goes on: the program was loaded, a cell is about to be executed,
the run halted, the run failed.
-/

namespace Funge

/-- Something worth reporting. -/
inductive Event where
  /-- A program was loaded. -/
  | loaded (height width : Nat)
  /-- A cell is executed next. -/
  | executing (position : Position) (cell : Cell) (direction : Direction) (depth : Nat)
  /-- The machine halted after a number of steps. -/
  | halted (steps : Nat) (position : Position)
  /-- The machine failed. -/
  | failed (fault : Fault)
deriving DecidableEq, Repr

/-- The event of loading a playfield. -/
def Playfield.loadEvent (f : Playfield) : Event := .loaded f.height f.width

end Funge
