import Funge.Proofs.Status

/-!
# Effects of cells

Executing a cell takes operands off the stack and then has one of a few effects. Which one is
decided by the cell, the string mode and the operands alone, or, for a random turn, by the next
draw: `Instruction.effect` is the table of the instruction set, and it mentions neither the
playfield nor the host. `Machine.apply` carries an effect out and keeps the fault if it fails, and
`record_execute` says that the machine follows the table.

A statement about all instructions is therefore a statement about the effects. `apply_cases` says
what an effect can do to a machine, and `step_cases` what a step can do.
-/

namespace Funge

variable {σ : Type}

/-! ### Operands -/

namespace Stack

/-- The stack without a number of its top values. -/
def drop : Nat → Stack → Stack
  | 0, s => s
  | n + 1, s => drop n s.rest

/-- The value at a depth below the top; zero under the bottom. -/
def peek (s : Stack) (n : Nat) : Int64 := (s.drop n).top

@[simp] theorem drop_zero (s : Stack) : s.drop 0 = s := rfl

theorem drop_succ (n : Nat) (s : Stack) : s.drop (n + 1) = s.rest.drop n := rfl

@[simp] theorem peek_push_succ (s : Stack) (v : Int64) (n : Nat) :
    (s.push v).peek (n + 1) = s.peek n := rfl

theorem peek_drop (s : Stack) (k n : Nat) : (s.drop k).peek n = s.peek (k + n) := by
  induction k generalizing s with
  | zero => rw [drop_zero, Nat.zero_add]
  | succ k ih => rw [drop_succ, ih, Nat.succ_add]; rfl

end Stack

/-! ### What an effect is -/

/-- The two forms in which a host passes values on. -/
inductive Format where
  | integer
  | char
deriving DecidableEq, Repr

namespace Format

/-- Read a value in a form. -/
def read [Host σ] : Format → σ → Except InputFault Int64 × σ
  | integer => Host.readInteger
  | char => Host.readChar

/-- Write a value in a form. -/
def write [Host σ] : Format → Int64 → σ → Except DeviceFault Unit × σ
  | integer => Host.writeInteger
  | char => Host.writeChar

end Format

/-- What a cell does once its operands are off the stack. -/
inductive Effect where
  /-- Push values, the last one on top. -/
  | push (values : List Int64)
  | turn (direction : Direction)
  /-- Turn to a direction that was drawn, and go on with what is left of the random stream. -/
  | turnRandomly (drawn : Direction × Generator)
  | toggleStringMode
  /-- Pass over the next cell. -/
  | skip
  | halt
  | divideByZero
  /-- Store a value at a position. -/
  | store (position : Position) (value : Int64)
  /-- Push what is stored at a position. -/
  | load (position : Position)
  | input (format : Format)
  | output (format : Format) (value : Int64)
deriving DecidableEq, Repr

namespace Instruction

/-- How many operands an instruction takes. -/
def arity : Instruction → Nat
  | add | subtract | multiply | divide | modulo | greater | swap | get => 2
  | not | horizontalIf | verticalIf | duplicate | discard | outputInteger | outputChar => 1
  | put => 3
  | right | left | up | down | random | stringMode | bridge | halt | inputInteger | inputChar => 0

/-- The effect of an instruction on its operands, which are numbered from the top, and on the next
random direction. -/
def effect (operand : Nat → Int64) (drawn : Direction × Generator) : Instruction → Effect
  | add => .push [operand 1 + operand 0]
  | subtract => .push [operand 1 - operand 0]
  | multiply => .push [operand 1 * operand 0]
  | divide => if operand 0 = 0 then .divideByZero else .push [operand 1 / operand 0]
  | modulo => if operand 0 = 0 then .divideByZero else .push [operand 1 % operand 0]
  | not => .push [Machine.truth (operand 0 = 0)]
  | greater => .push [Machine.truth (operand 1 > operand 0)]
  | right => .turn .right
  | left => .turn .left
  | up => .turn .up
  | down => .turn .down
  | random => .turnRandomly drawn
  | horizontalIf => .turn (if operand 0 = 0 then .right else .left)
  | verticalIf => .turn (if operand 0 = 0 then .down else .up)
  | stringMode => .toggleStringMode
  | bridge => .skip
  | halt => .halt
  | duplicate => .push [operand 0, operand 0]
  | swap => .push [operand 0, operand 1]
  | discard => .push []
  | outputInteger => .output .integer (operand 0)
  | outputChar => .output .char (operand 0)
  | inputInteger => .input .integer
  | inputChar => .input .char
  | put => .store ⟨(operand 1).toInt, (operand 0).toInt⟩ (operand 2)
  | get => .load ⟨(operand 1).toInt, (operand 0).toInt⟩

end Instruction

namespace Cell

/-- In string mode a cell is data, unless it ends the mode. -/
def IsData (stringMode : Bool) (cell : Cell) : Prop :=
  stringMode = true ∧ cell ≠ .instruction .stringMode

instance (stringMode : Bool) (cell : Cell) : Decidable (cell.IsData stringMode) :=
  inferInstanceAs (Decidable (_ ∧ _))

/-- How many operands a cell takes. -/
def arity (stringMode : Bool) (cell : Cell) : Nat :=
  if cell.IsData stringMode then 0
  else match cell with
    | .instruction i => i.arity
    | .digit _ | .other _ | .blank => 0

/-- The effect of a cell on its operands and on the next random direction. -/
def effect (stringMode : Bool) (operand : Nat → Int64) (drawn : Direction × Generator)
    (cell : Cell) : Effect :=
  if cell.IsData stringMode then .push [cell.value]
  else match cell with
    | .digit d => .push [Int64.ofNat d.toNat]
    | .instruction i => i.effect operand drawn
    | .other _ | .blank => .push []

end Cell

/-! ### Effects that end a run -/

/-- The kind of fault an effect can lead to; most effects cannot fail. -/
def Effect.faultKind? : Effect → Option FaultKind
  | divideByZero => some .divisionByZero
  | store _ _ | load _ => some .outOfBounds
  | input _ => some .input
  | output _ _ => some .output
  | push _ | turn _ | turnRandomly _ | toggleStringMode | skip | halt => none

/-- The instructions that can fail with a kind of fault. -/
def FaultKind.culprits : FaultKind → List Instruction
  | divisionByZero => [.divide, .modulo]
  | input => [.inputInteger, .inputChar]
  | outOfBounds => [.put, .get]
  | output => [.outputInteger, .outputChar]
  | stepLimit => []

theorem Instruction.mem_culprits {i : Instruction} {operand : Nat → Int64}
    {drawn : Direction × Generator} {kind : FaultKind}
    (h : (i.effect operand drawn).faultKind? = some kind) : i ∈ kind.culprits := by
  cases i
  case divide | modulo =>
    by_cases hz : operand 0 = 0
    all_goals simp [effect, hz, Effect.faultKind?] at h
    subst h
    decide
  all_goals simp [effect, Effect.faultKind?] at h
  all_goals subst h; decide

theorem Instruction.eq_halt_of_effect {i : Instruction} {operand : Nat → Int64}
    {drawn : Direction × Generator} (h : i.effect operand drawn = .halt) : i = .halt := by
  cases i
  case divide | modulo =>
    by_cases hz : operand 0 = 0
    all_goals simp [effect, hz] at h
  all_goals first | rfl | cases h

namespace Cell

variable {cell : Cell} {stringMode : Bool} {operand : Nat → Int64} {drawn : Direction × Generator}

/-- A cell pushes values, or it is an instruction and has its effect; in string mode only the
instruction that ends the mode does. -/
theorem effect_cases (stringMode : Bool) (operand : Nat → Int64) (drawn : Direction × Generator)
    (cell : Cell) :
    (∃ values, cell.effect stringMode operand drawn = .push values) ∨
    ∃ i, cell = .instruction i ∧ (stringMode = false ∨ i = .stringMode) ∧
      cell.effect stringMode operand drawn = i.effect operand drawn := by
  by_cases hd : cell.IsData stringMode
  · exact .inl ⟨[cell.value], if_pos hd⟩
  · cases cell with
    | instruction i =>
        refine .inr ⟨i, rfl, ?_, if_neg hd⟩
        cases stringMode with
        | false => exact .inl rfl
        | true => exact .inr (by simpa [IsData] using hd)
    | digit d => exact .inl ⟨_, if_neg hd⟩
    | other v => exact .inl ⟨_, if_neg hd⟩
    | blank => exact .inl ⟨_, if_neg hd⟩

/-- A cell whose effect can fail is an instruction that can, outside string mode. -/
theorem exists_culprit {kind : FaultKind}
    (h : (cell.effect stringMode operand drawn).faultKind? = some kind) :
    stringMode = false ∧ ∃ i ∈ kind.culprits, cell = .instruction i := by
  obtain ⟨values, he⟩ | ⟨i, rfl, hmode | rfl, he⟩ := cell.effect_cases stringMode operand drawn
  · rw [he] at h
    cases h
  · rw [he] at h
    exact ⟨hmode, i, Instruction.mem_culprits h, rfl⟩
  · rw [he] at h
    cases h

/-- A cell that halts the machine is the halt instruction, outside string mode. -/
theorem eq_halt_of_effect (h : cell.effect stringMode operand drawn = .halt) :
    stringMode = false ∧ cell = .instruction .halt := by
  obtain ⟨values, he⟩ | ⟨i, rfl, hmode | rfl, he⟩ := cell.effect_cases stringMode operand drawn
  · rw [he] at h
    cases h
  · rw [he] at h
    exact ⟨hmode, congrArg Cell.instruction (Instruction.eq_halt_of_effect h)⟩
  · rw [he] at h
    cases h

end Cell

/-! ### Carrying an effect out -/

namespace Machine

/-- The machine and the host that an attempt leaves, with its fault, if it failed, kept by the
machine. -/
def record : Attempt σ → Machine × σ
  | (.error fault, m, host) => (m.failed fault, host)
  | (.ok _, m, host) => (m, host)

/-- Store a value in the playfield. -/
def store (m : Machine) (p : Position) (v : Int64) : Machine :=
  match m.playfield.write p (Cell.ofValue v) with
  | .ok playfield => { m with playfield := playfield }
  | .error access => m.failHere (.outOfBounds access)

/-- Push the value of a cell of the playfield. -/
def load (m : Machine) (p : Position) : Machine :=
  match m.playfield.read p with
  | .ok cell => m.push cell.value
  | .error access => m.failHere (.outOfBounds access)

/-- Push a value that the host reads. -/
def receive (m : Machine) (host : σ) (read : σ → Except InputFault Int64 × σ) : Machine × σ :=
  match read host with
  | (.ok v, host) => (m.push v, host)
  | (.error fault, host) => (m.failHere (.input fault), host)

/-- Have the host write a value. -/
def deliver (m : Machine) (host : σ) (write : σ → Except DeviceFault Unit × σ) : Machine × σ :=
  match write host with
  | (.ok _, host) => (m, host)
  | (.error fault, host) => (m.failHere (.output fault), host)

/-- Carry an effect out. -/
def apply [Host σ] (m : Machine) (host : σ) : Effect → Machine × σ
  | .push values => ({ m with stack := values.foldl Stack.push m.stack }, host)
  | .turn direction => (m.turn direction, host)
  | .turnRandomly drawn => ({ m with direction := drawn.1, generator := drawn.2 }, host)
  | .toggleStringMode => ({ m with stringMode := !m.stringMode }, host)
  | .skip => (m.advance, host)
  | .halt => ({ m with state := .halted }, host)
  | .divideByZero => (m.failHere .divisionByZero, host)
  | .store p v => (m.store p v, host)
  | .load p => (m.load p, host)
  | .input format => m.receive host format.read
  | .output format v => m.deliver host (format.write v)

/-- The machine without the top values of its stack. -/
def drop (m : Machine) (n : Nat) : Machine := { m with stack := m.stack.drop n }

/-- The effect of a cell on the operands that are on the stack. -/
def effect (m : Machine) (cell : Cell) : Effect :=
  cell.effect m.stringMode m.stack.peek m.generator.next

theorem record_divideBy (m : Machine) (host : σ) (f : Int64 → Int64 → Int64) :
    record (m.divideBy host f) =
      (if m.stack.peek 0 = 0 then (m.drop 2).failHere .divisionByZero
        else (m.drop 2).push (f (m.stack.peek 1) (m.stack.peek 0)), host) := by
  by_cases h : m.stack.top = 0
  · have hpeek : m.stack.peek 0 = 0 := h
    rw [if_pos hpeek]
    exact congrArg record (if_pos h)
  · have hpeek : ¬ m.stack.peek 0 = 0 := h
    rw [if_neg hpeek]
    exact congrArg record (if_neg h)

theorem record_accept (m : Machine) (host : σ) (read : σ → Except InputFault Int64 × σ) :
    record (m.accept host read) = m.receive host read := by
  rw [accept, receive]
  rcases read host with ⟨answer, after⟩
  cases answer <;> rfl

theorem record_emit (m : Machine) (host : σ) (write : Int64 → σ → Except DeviceFault Unit × σ) :
    record (m.emit host write) = (m.drop 1).deliver host (write (m.stack.peek 0)) := by
  change record (match write m.stack.top host with
    | (.ok _, host) => (.ok (), m.drop 1, host)
    | (.error fault, host) => (.error ((Cause.output fault).faultAt m.position), m.drop 1, host)) =
      match write m.stack.top host with
        | (.ok _, host) => (m.drop 1, host)
        | (.error fault, host) => ((m.drop 1).failHere (.output fault), host)
  rcases write m.stack.top host with ⟨answer, after⟩
  cases answer <;> rfl

/-- The instruction set is as the table says. -/
theorem record_perform [Host σ] (m : Machine) (host : σ) (i : Instruction) :
    record (m.perform host i) =
      (m.drop i.arity).apply host (i.effect m.stack.peek m.generator.next) := by
  cases i
  case divide | modulo =>
    refine (m.record_divideBy host _).trans ?_
    rw [Instruction.effect]
    split <;> rfl
  case random =>
    -- The draw searches a long stream, so it is named before anything unfolds.
    change (m.turnRandomly, host) = m.apply host (.turnRandomly m.generator.next)
    rw [turnRandomly]
    rcases m.generator.next with ⟨direction, generator⟩
    rfl
  case inputInteger | inputChar => exact m.record_accept host _
  case outputInteger | outputChar => exact m.record_emit host _
  case put =>
    simp only [perform, put, pop, Stack.pop]
    change _ = ((m.drop 3).store ⟨m.stack.rest.top.toInt, m.stack.top.toInt⟩
      m.stack.rest.rest.top, host)
    rw [store]
    change record (match m.playfield.write _ _ with | .ok _ => _ | .error _ => _) =
      (match m.playfield.write _ _ with | .ok _ => _ | .error _ => _, host)
    cases m.playfield.write ⟨m.stack.rest.top.toInt, m.stack.top.toInt⟩
      (Cell.ofValue m.stack.rest.rest.top) <;> rfl
  case get =>
    simp only [perform, get, pop, Stack.pop]
    change _ = ((m.drop 2).load ⟨m.stack.rest.top.toInt, m.stack.top.toInt⟩, host)
    rw [load]
    change record (match m.playfield.read _ with | .ok _ => _ | .error _ => _) =
      (match m.playfield.read _ with | .ok _ => _ | .error _ => _, host)
    cases m.playfield.read ⟨m.stack.rest.top.toInt, m.stack.top.toInt⟩ <;> rfl
  all_goals rfl

/-- A cell is executed by taking its operands off the stack and carrying its effect out. -/
theorem record_execute [Host σ] (m : Machine) (host : σ) (cell : Cell) :
    record (m.execute host cell) =
      (m.drop (cell.arity m.stringMode)).apply host (m.effect cell) := by
  unfold execute effect Cell.effect Cell.arity
  by_cases h : cell.IsData m.stringMode
  · rw [if_pos h, if_pos h]
    exact congrArg record (if_pos h)
  · rw [if_neg h, if_neg h]
    refine (congrArg record (if_neg h)).trans ?_
    cases cell with
    | instruction i => exact m.record_perform host i
    | digit d => rfl
    | other v => rfl
    | blank => rfl

/-! ### What an effect can do -/

theorem receive_eq (m : Machine) (host : σ) (read : σ → Except InputFault Int64 × σ) :
    m.receive host read =
      (match (read host).1 with
        | .ok v => m.push v
        | .error fault => m.failHere (.input fault), (read host).2) := by
  rw [receive]
  rcases read host with ⟨answer, after⟩
  cases answer <;> rfl

theorem deliver_eq (m : Machine) (host : σ) (write : σ → Except DeviceFault Unit × σ) :
    m.deliver host write =
      (match (write host).1 with
        | .ok _ => m
        | .error fault => m.failHere (.output fault), (write host).2) := by
  rw [deliver]
  rcases write host with ⟨answer, after⟩
  cases answer <;> rfl

section Outcome

variable [Host σ]

/-- What an effect can do to a machine: fail it, for the kind of cause that belongs to the effect;
halt it; replace one cell; or change no more than the stack, the pointer, the string mode and the
random stream, where only a skip moves the pointer. -/
theorem apply_cases (m : Machine) (host : σ) (e : Effect) :
    (∃ cause, e.faultKind? = some cause.kind ∧ (m.apply host e).1 = m.failHere cause) ∨
    (e = .halt ∧ (m.apply host e).1 = { m with state := .halted }) ∨
    (∃ p v g, e = .store p v ∧ m.playfield.write p (Cell.ofValue v) = .ok g ∧
      (m.apply host e).1 = { m with playfield := g }) ∨
    ∃ s p d b g, (p = m.position ∨ e = .skip) ∧ (m.apply host e).1 =
      { m with stack := s, position := p, direction := d, stringMode := b, generator := g } := by
  cases e with
  | skip => exact .inr (.inr (.inr ⟨_, _, _, _, _, .inr rfl, rfl⟩))
  | divideByZero => exact .inl ⟨.divisionByZero, rfl, rfl⟩
  | halt => exact .inr (.inl ⟨rfl, rfl⟩)
  | store p v =>
      simp only [apply, store]
      cases hw : m.playfield.write p (Cell.ofValue v) with
      | ok g => exact .inr (.inr (.inl ⟨p, v, g, rfl, hw, rfl⟩))
      | error access => exact .inl ⟨.outOfBounds access, rfl, rfl⟩
  | load p =>
      simp only [apply, load]
      cases m.playfield.read p with
      | ok cell => exact .inr (.inr (.inr ⟨_, _, _, _, _, .inl rfl, rfl⟩))
      | error access => exact .inl ⟨.outOfBounds access, rfl, rfl⟩
  | input format =>
      simp only [apply, receive_eq]
      cases (format.read host).1 with
      | ok v => exact .inr (.inr (.inr ⟨_, _, _, _, _, .inl rfl, rfl⟩))
      | error fault => exact .inl ⟨.input fault, rfl, rfl⟩
  | output format v =>
      simp only [apply, deliver_eq]
      cases (format.write v host).1 with
      | ok _ => exact .inr (.inr (.inr ⟨_, _, _, _, _, .inl rfl, rfl⟩))
      | error fault => exact .inl ⟨.output fault, rfl, rfl⟩
  | _ => exact .inr (.inr (.inr ⟨_, _, _, _, _, .inl rfl, rfl⟩))

/-- No effect touches the count of cells or the budget. -/
theorem apply_counters (m : Machine) (host : σ) (e : Effect) :
    (m.apply host e).1.steps = m.steps ∧ (m.apply host e).1.budget = m.budget := by
  obtain ⟨cause, -, h⟩ | ⟨-, h⟩ | ⟨p, v, g, -, -, h⟩ | ⟨s, p, d, b, g, -, h⟩ :=
    m.apply_cases host e
  all_goals rw [h]; exact ⟨rfl, rfl⟩

/-- Only a store changes the playfield, by the one write it makes. -/
theorem apply_playfield (m : Machine) (host : σ) (e : Effect) :
    (m.apply host e).1.playfield = m.playfield ∨
    ∃ p v, e = .store p v ∧
      m.playfield.write p (Cell.ofValue v) = .ok (m.apply host e).1.playfield := by
  obtain ⟨cause, -, h⟩ | ⟨-, h⟩ | ⟨p, v, g, he, hw, h⟩ | ⟨s, p, d, b, g, -, h⟩ :=
    m.apply_cases host e
  · rw [h]
    exact .inl rfl
  · rw [h]
    exact .inl rfl
  · rw [h]
    exact .inr ⟨p, v, he, hw⟩
  · rw [h]
    exact .inl rfl

/-- An effect that fails changes nothing but the state and the fault, and it fails for its own kind
of cause. -/
theorem apply_of_failed {m : Machine} {host : σ} {e : Effect} {fault : Fault}
    (hrun : m.status = .running) (hf : (m.apply host e).1.status = .failed fault) :
    ∃ cause, (m.apply host e).1 = m.failHere cause ∧ e.faultKind? = some cause.kind := by
  obtain ⟨cause, hk, h⟩ | ⟨-, h⟩ | ⟨p, v, g, -, -, h⟩ | ⟨s, p, d, b, g, -, h⟩ :=
    m.apply_cases host e
  · exact ⟨cause, h, hk⟩
  · rw [h, status_halted hrun] at hf
    cases hf
  all_goals
    rw [h] at hf
    cases hrun.symm.trans hf

/-- Only the halt effect halts. -/
theorem eq_halt_of_apply_halted {m : Machine} {host : σ} {e : Effect}
    (hrun : m.status = .running) (hh : (m.apply host e).1.status = .halted) : e = .halt := by
  obtain ⟨cause, -, h⟩ | ⟨he, -⟩ | ⟨p, v, g, -, -, h⟩ | ⟨s, p, d, b, g, -, h⟩ :=
    m.apply_cases host e
  · rw [h] at hh
    cases hh
  · exact he
  all_goals
    rw [h] at hh
    cases hrun.symm.trans hh

end Outcome

/-! ### Steps -/

theorem exhausted?_eq_some_iff {m : Machine} {limit : UInt64} :
    m.exhausted? = some limit ↔ m.budget = some limit ∧ limit.toNat ≤ m.steps := by
  rw [exhausted?, Option.filter_eq_some_iff, decide_eq_true_iff]

theorem steps_lt_of_exhausted?_eq_none {m : Machine} {limit : UInt64} (h : m.exhausted? = none)
    (hb : m.budget = some limit) : m.steps < limit.toNat := by
  refine Nat.lt_of_not_le fun hle => ?_
  cases h.symm.trans (exhausted?_eq_some_iff.mpr ⟨hb, hle⟩)

theorem fetch_of_exhausted {m : Machine} {limit : UInt64} (h : m.exhausted? = some limit) :
    m.fetch = .error (.stepLimit limit) := by
  simp only [fetch, h]

theorem fetch_of_read_ok {m : Machine} {cell : Cell} (h : m.exhausted? = none)
    (hr : m.playfield.read m.position = .ok cell) : m.fetch = .ok cell := by
  simp only [fetch, h, hr]
  rfl

theorem fetch_of_read_error {m : Machine} {access : OutOfBounds} (h : m.exhausted? = none)
    (hr : m.playfield.read m.position = .error access) :
    m.fetch = .error (.outOfBounds access) := by
  simp only [fetch, h, hr]
  rfl

/-- A fetch that succeeds reads the cell under the instruction pointer. -/
theorem read_of_fetch_ok {m : Machine} {cell : Cell} (h : m.fetch = .ok cell) :
    m.exhausted? = none ∧ m.playfield.read m.position = .ok cell := by
  cases hx : m.exhausted? with
  | some limit =>
      rw [fetch_of_exhausted hx] at h
      cases h
  | none =>
      cases hr : m.playfield.read m.position with
      | error access =>
          rw [fetch_of_read_error hx hr] at h
          cases h
      | ok found =>
          rw [fetch_of_read_ok hx hr] at h
          obtain rfl := Except.ok.inj h
          exact ⟨rfl, rfl⟩

/-- A fetch fails for want of budget, or because it is out of bounds. -/
theorem cause_of_fetch_error {m : Machine} {cause : Cause} (h : m.fetch = .error cause) :
    (∃ limit, m.exhausted? = some limit ∧ cause = .stepLimit limit) ∨
    (m.exhausted? = none ∧ ∃ access, m.playfield.read m.position = .error access ∧
      cause = .outOfBounds access) := by
  cases hx : m.exhausted? with
  | some limit =>
      rw [fetch_of_exhausted hx] at h
      exact .inl ⟨limit, rfl, (Except.error.inj h).symm⟩
  | none =>
      cases hr : m.playfield.read m.position with
      | error access =>
          rw [fetch_of_read_error hx hr] at h
          exact .inr ⟨rfl, access, rfl, (Except.error.inj h).symm⟩
      | ok found =>
          rw [fetch_of_read_ok hx hr] at h
          cases h

/-- The cell that a step executes, if it executes one. -/
def due? (m : Machine) : Option Cell :=
  match m.status with
  | .running => m.fetch.toOption
  | .halted | .failed _ => none

theorem due?_of_running {m : Machine} (h : m.status = .running) : m.due? = m.fetch.toOption := by
  simp only [due?, h]

theorem due?_of_not_running {m : Machine} (h : m.status ≠ .running) : m.due? = none := by
  rw [due?]
  cases hs : m.status with
  | running => exact absurd hs h
  | halted => rfl
  | failed fault => rfl

/-- Machines of the same status that fetch alike are about to execute the same cell. -/
theorem due?_congr {m m' : Machine} (hstatus : m'.status = m.status)
    (hfetch : m.status = .running → m'.fetch = m.fetch) : m'.due? = m.due? := by
  by_cases hrun : m.status = .running
  · rw [due?_of_running (hstatus.trans hrun), due?_of_running hrun, hfetch hrun]
  · have hrun' : m'.status ≠ .running := fun h => hrun (hstatus.symm.trans h)
    rw [due?_of_not_running hrun', due?_of_not_running hrun]

/-- A machine that is about to execute a cell runs, and it has fetched the cell. -/
theorem fetch_of_due {m : Machine} {cell : Cell} (h : m.due? = some cell) :
    m.status = .running ∧ m.fetch = .ok cell := by
  by_cases hrun : m.status = .running
  · rw [due?_of_running hrun] at h
    refine ⟨hrun, ?_⟩
    cases hf : m.fetch with
    | ok found =>
        rw [hf] at h
        exact congrArg Except.ok (Option.some.inj h)
    | error cause =>
        rw [hf] at h
        cases h
  · rw [due?_of_not_running hrun] at h
    cases h

/-- The machine that is about to have the effect of a cell: the cell is counted, and its operands
are off the stack. -/
def begin (m : Machine) (cell : Cell) : Machine :=
  { m with steps := m.steps + 1, stack := m.stack.drop (cell.arity m.stringMode) }

/-- Where the instruction pointer goes at the end of a step: on, unless the machine failed. -/
def destination (m : Machine) : Position :=
  match m.status with
  | .failed _ => m.position
  | .running | .halted => m.position.next m.direction

/-- The end of a step. -/
def settle (m : Machine) : Machine := { m with position := m.destination }

@[simp] theorem status_settle (m : Machine) : m.settle.status = m.status := rfl

@[simp] theorem answer_settle (m : Machine) : m.settle.answer = m.answer := rfl

theorem settle_of_failed {m : Machine} {fault : Fault} (h : m.status = .failed fault) :
    m.settle = m := by
  have hd : m.destination = m.position := by simp only [destination, h]
  rw [settle, hd]

theorem settle_of_not_failed {m : Machine} (h : ∀ fault, m.status ≠ .failed fault) :
    m.settle = m.advance := by
  have hd : m.destination = m.position.next m.direction := by
    cases hs : m.status with
    | failed fault => exact absurd hs (h fault)
    | running => simp only [destination, hs]
    | halted => simp only [destination, hs]
  rw [settle, hd, advance]

/-- A machine that has just halted moves on. -/
theorem settle_halted {m : Machine} (h : m.status = .running) :
    { m with state := .halted }.settle = { m with state := .halted }.advance :=
  settle_of_not_failed (by simp [status_halted h])

/-- A cell that fails is an instruction outside string mode that can fail for this kind of cause, and
the machine fails where it is, with the operands off its stack. -/
theorem exists_culprit_of_failed [Host σ] {m : Machine} {host : σ} {cell : Cell} {fault : Fault}
    (hrun : m.status = .running)
    (hf : ((m.begin cell).apply host (m.effect cell)).1.status = .failed fault) :
    fault.position = m.position ∧ m.stringMode = false ∧
      ∃ i ∈ fault.kind.culprits, cell = .instruction i ∧
        ((m.begin cell).apply host (m.effect cell)).1.settle =
          (m.begin cell).failHere fault.cause := by
  obtain ⟨cause, heq, hkind⟩ := apply_of_failed (m := m.begin cell) hrun hf
  obtain ⟨hmode, i, hmem, hcell⟩ := Cell.exists_culprit hkind
  have hsettle := settle_of_failed hf
  rw [heq] at hf hsettle ⊢
  obtain rfl := Status.failed.inj hf
  exact ⟨rfl, hmode, i, hmem, hcell, hsettle⟩

/-- A step on a machine without a fault keeps the fault of its attempt, or goes on. -/
theorem conclude_eq_settle {attempt : Attempt σ} (h : attempt.2.1.error = none) :
    ((conclude attempt).machine, (conclude attempt).host) =
      ((record attempt).1.settle, (record attempt).2) := by
  obtain ⟨answer, after, left⟩ := attempt
  cases answer with
  | error fault => rfl
  | ok _ =>
      have hnone : after.error = none := h
      have hok : ∀ fault, after.status ≠ .failed fault := fun fault hf => by
        cases hnone.symm.trans (status_eq_failed_iff.mp hf)
      rw [conclude, goOn_eq, record, settle_of_not_failed hok]

/-- A running machine that can fetch a cell executes it. -/
theorem step_of_fetch_ok [Host σ] {m : Machine} {cell : Cell} (h : m.status = .running)
    (hf : m.fetch = .ok cell) (host : σ) :
    m.step host = (((m.begin cell).apply host (m.effect cell)).1.settle,
      ((m.begin cell).apply host (m.effect cell)).2) := by
  have hrecord : record (m.count.execute host cell) =
      (m.begin cell).apply host (m.effect cell) := m.count.record_execute host cell
  rw [step, callStep_of_fetch_ok h hf, ← hrecord]
  exact conclude_eq_settle (error_attempt h host cell)

/-- What a step can do: nothing, once the machine has ended; fail for want of a cell; or execute
one. -/
theorem step_cases [Host σ] (m : Machine) (host : σ) :
    (m.status ≠ .running ∧ m.due? = none ∧ m.step host = (m, host)) ∨
    (m.status = .running ∧ m.due? = none ∧ ∃ cause, m.fetch = .error cause ∧
      m.step host = (m.failHere cause, host)) ∨
    (m.status = .running ∧ ∃ cell, m.due? = some cell ∧ m.fetch = .ok cell ∧
      m.step host = (((m.begin cell).apply host (m.effect cell)).1.settle,
        ((m.begin cell).apply host (m.effect cell)).2)) := by
  by_cases h : m.status = .running
  · cases hf : m.fetch with
    | error cause =>
        have hd : m.due? = none := by rw [due?_of_running h, hf]; rfl
        exact .inr (.inl ⟨h, hd, cause, rfl, step_of_fetch_error h hf host⟩)
    | ok cell =>
        have hd : m.due? = some cell := by rw [due?_of_running h, hf]; rfl
        exact .inr (.inr ⟨h, cell, hd, rfl, step_of_fetch_ok h hf host⟩)
  · exact .inl ⟨h, due?_of_not_running h, step_of_not_running h host⟩

/-- A step that executes no cell changes no more than the state and the fault. -/
theorem step_of_due_none [Host σ] {m : Machine} (h : m.due? = none) (host : σ) :
    ∃ state error, m.step host = ({ m with state := state, error := error }, host) := by
  obtain ⟨-, -, hs⟩ | ⟨-, -, cause, -, hs⟩ | ⟨-, cell, hd, -, -⟩ := m.step_cases host
  · exact ⟨m.state, m.error, hs⟩
  · exact ⟨_, _, hs⟩
  · cases h.symm.trans hd

theorem step_budget [Host σ] (m : Machine) (host : σ) :
    (m.step host).1.budget = m.budget := by
  obtain ⟨-, -, hs⟩ | ⟨-, -, cause, -, hs⟩ | ⟨-, cell, -, -, hs⟩ := m.step_cases host
  · rw [hs]
  · rw [hs]
    rfl
  · rw [hs]
    exact (apply_counters (m.begin cell) host (m.effect cell)).2

/-- A step counts the cell it executes. -/
theorem step_steps [Host σ] (m : Machine) (host : σ) :
    (m.step host).1.steps = m.steps + m.due?.toList.length := by
  obtain ⟨-, hd, hs⟩ | ⟨-, hd, cause, -, hs⟩ | ⟨-, cell, hd, -, hs⟩ := m.step_cases host
  · rw [hs, hd]
    rfl
  · rw [hs, hd]
    rfl
  · rw [hs, hd]
    exact (apply_counters (m.begin cell) host (m.effect cell)).1

/-- What holds of a playfield after every write still holds after a step. -/
theorem step_playfield [Host σ] {P : Playfield → Prop} {m : Machine} (h : P m.playfield)
    (write : ∀ p v g, m.playfield.write p (Cell.ofValue v) = .ok g → P g) (host : σ) :
    P (m.step host).1.playfield := by
  obtain ⟨-, -, hs⟩ | ⟨-, -, cause, -, hs⟩ | ⟨-, cell, -, -, hs⟩ := m.step_cases host
  · rw [hs]
    exact h
  · rw [hs]
    exact h
  · rw [hs]
    obtain heq | ⟨p, v, -, hw⟩ := (m.begin cell).apply_playfield host (m.effect cell)
    · change P ((m.begin cell).apply host (m.effect cell)).1.playfield
      rw [heq]
      exact h
    · exact write p v _ hw

/-- No step changes the shape of the playfield. -/
theorem shape_step [Host σ] (m : Machine) (host : σ) :
    (m.step host).1.playfield.height = m.playfield.height ∧
      (m.step host).1.playfield.width = m.playfield.width := by
  refine step_playfield
    (P := fun g => g.height = m.playfield.height ∧ g.width = m.playfield.width) ⟨rfl, rfl⟩ ?_ host
  intro p v g hw
  obtain ⟨-, hheight, hwidth, -⟩ := Playfield.of_write_eq_ok hw
  exact ⟨hheight, hwidth⟩

end Machine

end Funge
