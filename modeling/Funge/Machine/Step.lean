import Funge.Call
import Funge.Machine

/-!
# One step

A call of `step` executes the cell under the instruction pointer, moves the pointer on, and answers
with the state of the machine. A step can fail in two ways: before a cell is executed, when the
budget is used up or the pointer is off the playfield, and while it is executed. Then the machine
stays where it failed, keeps the fault, and answers with it. A machine that has halted or failed does
not change any more, and it answers every further call in the same way.

Instructions take their operands from the stack before anything can fail; the operand on top is the
right one. Arithmetic is that of 64-bit words.
-/

namespace Funge.Machine

variable {σ : Type}

/-- What comes of carrying something out: a fault if it failed, and the machine and the host that it
leaves. -/
abbrev Attempt (σ : Type) := Except Fault Unit × Machine × σ

/-! ### Instructions that need no host -/

/-- Replace the two values on top by a function of them, the upper one its right argument. -/
def combine (m : Machine) (f : Int64 → Int64 → Int64) : Machine :=
  let (right, m) := m.pop
  let (left, m) := m.pop
  m.push (f left right)

/-- Replace the two values on top by a quotient or remainder of them. -/
def divideBy (m : Machine) (host : σ) (f : Int64 → Int64 → Int64) : Attempt σ :=
  let here := m.position
  let (right, m) := m.pop
  let (left, m) := m.pop
  if right = 0 then (.error (Cause.divisionByZero.faultAt here), m, host)
  else (.ok (), m.push (f left right), host)

/-- Turn to one direction if the value on top is zero, and to another if it is not. -/
def turnIf (m : Machine) (zero nonzero : Direction) : Machine :=
  let (v, m) := m.pop
  m.turn (if v = 0 then zero else nonzero)

/-- The truth value of a proposition as a number. -/
def truth (p : Prop) [Decidable p] : Int64 := if p then 1 else 0

/-- Store a value: the column is on top of the stack, below it the row, below that the value. -/
def put (m : Machine) (host : σ) : Attempt σ :=
  let here := m.position
  let (col, m) := m.pop
  let (row, m) := m.pop
  let (v, m) := m.pop
  match m.playfield.write ⟨row.toInt, col.toInt⟩ (Cell.ofValue v) with
  | .ok playfield => (.ok (), { m with playfield := playfield }, host)
  | .error access => (.error ((Cause.outOfBounds access).faultAt here), m, host)

/-- Fetch a value: the column is on top of the stack, below it the row. -/
def get (m : Machine) (host : σ) : Attempt σ :=
  let here := m.position
  let (col, m) := m.pop
  let (row, m) := m.pop
  match m.playfield.read ⟨row.toInt, col.toInt⟩ with
  | .ok cell => (.ok (), m.push cell.value, host)
  | .error access => (.error ((Cause.outOfBounds access).faultAt here), m, host)

/-- Turn to a random direction. -/
def turnRandomly (m : Machine) : Machine :=
  let (direction, generator) := m.generator.next
  { m with direction := direction, generator := generator }

/-- Exchange the two values on top. -/
def exchange (m : Machine) : Machine :=
  let (upper, m) := m.pop
  let (lower, m) := m.pop
  (m.push upper).push lower

/-- Push the value on top once more. -/
def duplicate (m : Machine) : Machine :=
  let (v, m) := m.pop
  (m.push v).push v

/-! ### Instructions that call the host -/

/-- Push a value that the host reads. -/
def accept (m : Machine) (host : σ) (read : σ → Except InputFault Int64 × σ) : Attempt σ :=
  let here := m.position
  match read host with
  | (.ok v, host) => (.ok (), m.push v, host)
  | (.error fault, host) => (.error ((Cause.input fault).faultAt here), m, host)

/-- Have the host write the value on top. -/
def emit (m : Machine) (host : σ) (write : Int64 → σ → Except DeviceFault Unit × σ) : Attempt σ :=
  let here := m.position
  let (v, m) := m.pop
  match write v host with
  | (.ok _, host) => (.ok (), m, host)
  | (.error fault, host) => (.error ((Cause.output fault).faultAt here), m, host)

/-! ### Cells -/

/-- Carry out an instruction, the move to the next cell aside. -/
def perform [Host σ] (m : Machine) (host : σ) : Instruction → Attempt σ
  | .add => (.ok (), m.combine (· + ·), host)
  | .subtract => (.ok (), m.combine (· - ·), host)
  | .multiply => (.ok (), m.combine (· * ·), host)
  | .divide => m.divideBy host (· / ·)
  | .modulo => m.divideBy host (· % ·)
  | .not => (.ok (), m.pop.2.push (truth (m.pop.1 = 0)), host)
  | .greater => (.ok (), m.combine fun left right => truth (left > right), host)
  | .right => (.ok (), m.turn .right, host)
  | .left => (.ok (), m.turn .left, host)
  | .up => (.ok (), m.turn .up, host)
  | .down => (.ok (), m.turn .down, host)
  | .random => (.ok (), m.turnRandomly, host)
  | .horizontalIf => (.ok (), m.turnIf .right .left, host)
  | .verticalIf => (.ok (), m.turnIf .down .up, host)
  | .stringMode => (.ok (), { m with stringMode := !m.stringMode }, host)
  | .bridge => (.ok (), m.advance, host)
  | .halt => (.ok (), { m with state := .halted }, host)
  | .duplicate => (.ok (), m.duplicate, host)
  | .swap => (.ok (), m.exchange, host)
  | .discard => (.ok (), m.pop.2, host)
  | .outputInteger => m.emit host Host.writeInteger
  | .outputChar => m.emit host Host.writeChar
  | .inputInteger => m.accept host Host.readInteger
  | .inputChar => m.accept host Host.readChar
  | .put => m.put host
  | .get => m.get host

/-- Execute a cell, the move to the next one aside. In string mode every cell but the one that ends
the mode is pushed as data. -/
def execute [Host σ] (m : Machine) (host : σ) (cell : Cell) : Attempt σ :=
  if m.stringMode ∧ cell ≠ .instruction .stringMode then (.ok (), m.push cell.value, host)
  else match cell with
    | .digit d => (.ok (), m.push (Int64.ofNat d.toNat), host)
    | .instruction i => m.perform host i
    | .other _ => (.ok (), m, host)
    | .blank => (.ok (), m, host)

/-! ### Steps -/

/-- The limit that forbids to execute another cell, if the budget is used up. -/
def exhausted? (m : Machine) : Option UInt64 :=
  m.budget.filter fun limit => limit.toNat ≤ m.steps

/-- The cell to be executed next, or why there is none. -/
def fetch (m : Machine) : Except Cause Cell :=
  match m.exhausted? with
  | some limit => .error (.stepLimit limit)
  | none => (m.playfield.read m.position).mapError .outOfBounds

/-- The machine fails: it reports the fault, keeps it, and answers with it. -/
def fail (m : Machine) (host : σ) (fault : Fault) : Call Machine σ State :=
  .reporting (.failed fault) ⟨.error fault, m.failed fault, host, []⟩

/-- The end of a step that did not fail: a machine that has just halted reports it, and the pointer
moves on all the same. -/
def goOn (m : Machine) (host : σ) : Call Machine σ State :=
  let moved : Call Machine σ State := ⟨.ok m.advance.state, m.advance, host, []⟩
  if m.state = .halted then .reporting (.halted m.steps m.position) moved else moved

/-- The end of a step, from the attempt to execute its cell. -/
def conclude : Attempt σ → Call Machine σ State
  | (.error fault, m, host) => m.fail host fault
  | (.ok _, m, host) => m.goOn host

/-- A step on a cell: count it, report it, and execute it. -/
def stepOn [Host σ] (m : Machine) (host : σ) (cell : Cell) : Call Machine σ State :=
  let m := m.count
  .reporting (.executing m.position cell m.direction m.stack.depth) (conclude (m.execute host cell))

/-- A call of `step`. -/
def callStep [Host σ] (m : Machine) (host : σ) : Call Machine σ State :=
  match m.error with
  | some fault => ⟨.error fault, m, host, []⟩
  | none =>
    if m.state = .halted then ⟨.ok .halted, m, host, []⟩
    else match m.exhausted? with
      | some limit => m.fail host ((Cause.stepLimit limit).faultAt m.position)
      | none =>
        match m.playfield.read m.position with
        | .error access => m.fail host ((Cause.outOfBounds access).faultAt m.position)
        | .ok cell => m.stepOn host cell

/-- The machine and the host that a call of `step` leaves. -/
def step [Host σ] (m : Machine) (host : σ) : Machine × σ :=
  let call := m.callStep host
  (call.machine, call.host)

end Funge.Machine
