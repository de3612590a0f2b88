import Funge.Console
import Funge.Proofs.Loading
import Funge.Proofs.Observation

/-!
# Rows and columns are treated alike

Transposition exchanges rows and columns: a playfield is flipped along its main diagonal, and what
points along one axis, a direction or an instruction that turns, comes to point along the other.
Nothing else of a machine is changed. A machine cannot tell whether it was transposed, unless a
program looks at its own axes. It can do so in three ways: it can address a cell by row and column,
draw a direction, or take the characters of its instructions as data. Without these (`AxisBlind`),
transposition commutes with every effect, so with every step (`step_transpose`), so with every run.
-/

namespace Funge

/-! ### Positions and directions -/

namespace Position

/-- The position with row and column exchanged. -/
def transpose (p : Position) : Position := ⟨p.col, p.row⟩

@[simp] theorem transpose_transpose (p : Position) : p.transpose.transpose = p := rfl

end Position

namespace Direction

/-- The same way along the other axis. -/
def transpose : Direction → Direction
  | up => left
  | down => right
  | left => up
  | right => down

@[simp] theorem transpose_transpose (d : Direction) : d.transpose.transpose = d := by
  cases d <;> rfl

end Direction

/-- Neighbours stay neighbours. -/
@[simp] theorem Position.next_transpose (p : Position) (d : Direction) :
    p.transpose.next d.transpose = (p.next d).transpose := by
  cases d <;> rfl

/-! ### Instructions and cells -/

namespace Instruction

/-- The instruction that does the same along the other axis. -/
def transpose : Instruction → Instruction
  | right => down
  | down => right
  | left => up
  | up => left
  | horizontalIf => verticalIf
  | verticalIf => horizontalIf
  | i => i

@[simp] theorem transpose_transpose (i : Instruction) : i.transpose.transpose = i := by
  cases i <;> rfl

@[simp] theorem arity_transpose (i : Instruction) : i.transpose.arity = i.arity := by
  cases i <;> rfl

/-- An instruction that works without knowing which axis is which. The others take a row and a
column as operands, draw one of the directions in their fixed order, or begin to take characters as
data. -/
def AxisBlind (i : Instruction) : Prop := i ∉ [put, get, random, stringMode]

instance (i : Instruction) : Decidable i.AxisBlind := inferInstanceAs (Decidable (¬ _))

end Instruction

namespace Cell

/-- The cell that does the same along the other axis. -/
def transpose : Cell → Cell
  | instruction i => instruction i.transpose
  | cell => cell

@[simp] theorem transpose_transpose (cell : Cell) : cell.transpose.transpose = cell := by
  cases cell <;> simp [transpose]

/-- A cell without an instruction that would have to know which axis is which. -/
def AxisBlind : Cell → Prop
  | instruction i => i.AxisBlind
  | digit _ | other _ | blank => True

instance (cell : Cell) : Decidable cell.AxisBlind :=
  match cell with
  | instruction i => inferInstanceAs (Decidable i.AxisBlind)
  | digit _ | other _ | blank => .isTrue trivial

@[simp] theorem arity_transpose (cell : Cell) : cell.transpose.arity false = cell.arity false := by
  cases cell <;> simp [arity, IsData, transpose]

end Cell

/-! ### Effects -/

namespace Effect

/-- The effect that is the same along the other axis. What is drawn, stored or loaded follows no
axis, so it stays. -/
def transpose : Effect → Effect
  | turn direction => .turn direction.transpose
  | e => e

/-- An effect that depends on the axes only through the direction it turns to. -/
def AxisBlind : Effect → Prop
  | turnRandomly _ | toggleStringMode | store _ _ | load _ => False
  | push _ | turn _ | skip | halt | divideByZero | input _ | output _ _ => True

@[simp] theorem hostCall?_transpose (e : Effect) : e.transpose.hostCall? = e.hostCall? := by
  cases e <;> rfl

end Effect

namespace Instruction

variable (operand : Nat → Int64) (drawn : Direction × Generator)

/-- Both conditionals are one conditional, along different axes, and so are the turns. -/
theorem effect_transpose (i : Instruction) :
    i.transpose.effect operand drawn = (i.effect operand drawn).transpose := by
  cases i
  case divide | modulo | horizontalIf | verticalIf =>
    by_cases hz : operand 0 = 0
    all_goals simp [transpose, effect, hz, Effect.transpose, Direction.transpose]
  all_goals rfl

theorem AxisBlind.effect {i : Instruction} (h : i.AxisBlind) :
    (i.effect operand drawn).AxisBlind := by
  cases i
  case divide | modulo =>
    by_cases hz : operand 0 = 0
    all_goals simp [Instruction.effect, hz, Effect.AxisBlind]
  case put | get | random | stringMode => exact absurd h (by decide)
  all_goals exact trivial

end Instruction

namespace Cell

variable (operand : Nat → Int64) (drawn : Direction × Generator)

/-- Outside string mode, a transposed cell has the transposed effect. -/
theorem effect_transpose (cell : Cell) :
    cell.transpose.effect false operand drawn = (cell.effect false operand drawn).transpose := by
  cases cell with
  | instruction i => simpa [effect, IsData, transpose] using i.effect_transpose operand drawn
  | digit d => rfl
  | other v => rfl
  | blank => rfl

theorem AxisBlind.effect {cell : Cell} (h : cell.AxisBlind) :
    (cell.effect false operand drawn).AxisBlind := by
  cases cell with
  | instruction i =>
    have hi : i.AxisBlind := h
    simpa [Cell.effect, IsData] using hi.effect operand drawn
  | digit d => exact trivial
  | other v => exact trivial
  | blank => exact trivial

end Cell

/-! ### Playfields -/

/-- The refusal of the transposed access to the transposed playfield. -/
def OutOfBounds.transpose (access : OutOfBounds) : OutOfBounds :=
  ⟨access.position.transpose, access.width, access.height⟩

@[simp] theorem OutOfBounds.transpose_transpose (access : OutOfBounds) :
    access.transpose.transpose = access := rfl

namespace Playfield

variable {f : Playfield} {p : Position}

/-- The places of an array of columns, one below the other, are the positions of the playfield. -/
theorem contains_of_column {i : Nat} (h : i < f.width * f.height) :
    f.Contains ⟨(i % f.height : Nat), (i / f.height : Nat)⟩ := by
  have hrow : i % f.height < f.height := Nat.mod_lt _ f.height_pos
  have hcol : i / f.height < f.width := Nat.div_lt_of_lt_mul (by rwa [Nat.mul_comm])
  exact contains_natCast.mpr ⟨hrow, hcol⟩

/-- The playfield flipped along its main diagonal, with all its arrows. -/
def transpose (f : Playfield) : Playfield where
  height := f.width
  width := f.height
  cells := Array.ofFn fun i : Fin (f.width * f.height) =>
    have bound := offset_lt (contains_of_column i.isLt)
    f.cells[f.offset ⟨(i.val % f.height : Nat), (i.val / f.height : Nat)⟩].transpose
  height_pos := f.width_pos
  width_pos := f.height_pos
  size_eq := Array.size_ofFn

theorem contains_transpose : f.transpose.Contains p.transpose ↔ f.Contains p := by
  constructor
  · rintro ⟨hc, hc', hr, hr'⟩
    exact ⟨hr, hr', hc, hc'⟩
  · rintro ⟨hr, hr', hc, hc'⟩
    exact ⟨hc, hc', hr, hr'⟩

/-- A transposed playfield has every cell of the playfield at the transposed position. -/
theorem read_transpose_of_ok {cell : Cell} (h : f.read p = .ok cell) :
    f.transpose.read p.transpose = .ok cell.transpose := by
  have hp : f.Contains p := contains_of_read h
  obtain ⟨r, c, hr, hc, rfl⟩ := exists_natCast hp
  -- The row is a column now, and its place in the array comes apart by the height.
  have hcol : (c * f.height + r) / f.height = c := by
    rw [Nat.mul_comm, Nat.mul_add_div f.height_pos, Nat.div_eq_of_lt hr, Nat.add_zero]
  have hrow : (c * f.height + r) % f.height = r := by
    rw [Nat.mul_add_mod_self_right, Nat.mod_eq_of_lt hr]
  have hlt : c * f.height + r < f.width * f.height :=
    Nat.lt_of_lt_of_eq (offset_lt (contains_transpose.mpr hp)) f.transpose.size_eq
  rw [read_eq_ok_iff] at h ⊢
  obtain ⟨_, hcell⟩ := Array.getElem?_eq_some_iff.mp h.2
  refine ⟨contains_transpose.mpr hp, ?_⟩
  change f.transpose.cells[c * f.height + r]? = some cell.transpose
  simp only [transpose, Array.getElem?_ofFn, dif_pos hlt, hrow, hcol, hcell]

/-- What is refused, is refused on the transposed playfield. -/
theorem read_transpose_of_error {access : OutOfBounds} (h : f.read p = .error access) :
    f.transpose.read p.transpose = .error access.transpose := by
  have hp : ¬ f.Contains p := not_contains_of_read_error h
  rw [read_of_not_contains hp] at h
  rw [read_of_not_contains (mt contains_transpose.mp hp), ← Except.error.inj h]
  rfl

@[simp] theorem transpose_transpose (f : Playfield) : f.transpose.transpose = f := by
  refine eq_of_read rfl rfl fun p hp => ?_
  obtain ⟨cell, hcell⟩ := exists_read (f := f) (contains_transpose.mp (contains_transpose.mp hp))
  have htwice := read_transpose_of_ok (read_transpose_of_ok hcell)
  rw [Cell.transpose_transpose] at htwice
  exact htwice.trans hcell.symm

example : ((ofSource? "&:v\n@._").map transpose) = ofSource? "&@\n:.\n>|" := by decide

end Playfield

/-! ### Faults -/

/-- The cause that the transposed machine fails for. -/
def Cause.transpose : Cause → Cause
  | outOfBounds access => outOfBounds access.transpose
  | cause => cause

@[simp] theorem Cause.transpose_transpose (cause : Cause) : cause.transpose.transpose = cause := by
  cases cause <;> rfl

@[simp] theorem Cause.kind_transpose (cause : Cause) : cause.transpose.kind = cause.kind := by
  cases cause <;> rfl

/-- Only a cause that names a position and a shape tells one axis from the other. -/
theorem Cause.transpose_of_kind_ne {cause : Cause} (h : cause.kind ≠ .outOfBounds) :
    cause.transpose = cause := by
  cases cause with
  | outOfBounds access => exact absurd rfl h
  | _ => rfl

/-- The fault of the transposed machine. -/
def Fault.transpose (fault : Fault) : Fault :=
  ⟨fault.kind, fault.cause.transpose, fault.position.transpose⟩

theorem Cause.faultAt_transpose (cause : Cause) (p : Position) :
    cause.transpose.faultAt p.transpose = (cause.faultAt p).transpose := by
  rw [faultAt, kind_transpose]
  rfl

@[simp] theorem Fault.transpose_transpose (fault : Fault) : fault.transpose.transpose = fault := by
  simp [transpose]

/-- How the transposed machine stands. -/
def Status.transpose : Status → Status
  | failed fault => failed fault.transpose
  | status => status

theorem Status.transpose_eq_running_iff {status : Status} :
    status.transpose = .running ↔ status = .running := by
  cases status <;> simp [transpose]

/-! ### Machines -/

namespace Machine

variable {σ : Type} [Host σ]

/-- The machine with rows and columns exchanged. -/
def transpose (m : Machine) : Machine :=
  { m with
    playfield := m.playfield.transpose
    position := m.position.transpose
    direction := m.direction.transpose
    error := m.error.map Fault.transpose }

@[simp] theorem transpose_transpose (m : Machine) : m.transpose.transpose = m := by
  have htwice : Fault.transpose ∘ Fault.transpose = id := funext Fault.transpose_transpose
  simp [transpose, htwice]

theorem status_transpose (m : Machine) : m.transpose.status = m.status.transpose := by
  have herror : m.transpose.error = m.error.map Fault.transpose := rfl
  have hstate : m.transpose.state = m.state := rfl
  rw [status, status, herror, hstate]
  cases m.error with
  | some fault => rfl
  | none => by_cases h : m.state = .halted <;> simp [h, Status.transpose]

theorem transpose_running_iff {m : Machine} :
    m.transpose.status = .running ↔ m.status = .running := by
  rw [status_transpose, Status.transpose_eq_running_iff]

theorem answer_transpose (m : Machine) :
    m.transpose.answer = m.answer.mapError Fault.transpose := by
  have herror : m.transpose.error = m.error.map Fault.transpose := rfl
  rw [answer, answer, herror]
  cases m.error <;> rfl

/-- A machine that never asks which axis is which: it is outside string mode, and no instruction on
its playfield asks. -/
structure AxisBlind (m : Machine) : Prop where
  plain : m.stringMode = false
  cells : ∀ cell ∈ m.playfield.cells, cell.AxisBlind

variable {m : Machine}

theorem AxisBlind.of_due (h : m.AxisBlind) {cell : Cell} (hd : m.due? = some cell) :
    cell.AxisBlind := by
  obtain ⟨-, hread⟩ := read_of_fetch_ok (fetch_of_due hd).2
  exact h.cells cell (Array.mem_of_getElem? (Playfield.read_eq_ok_iff.mp hread).2)

theorem AxisBlind.effect (h : m.AxisBlind) {cell : Cell} (hd : m.due? = some cell) :
    (m.effect cell).AxisBlind := by
  rw [Machine.effect, h.plain]
  exact (h.of_due hd).effect _ _

/-! ### The parts of a step -/

theorem fail_transpose (m : Machine) (cause : Cause) :
    m.transpose.failHere cause.transpose = (m.failHere cause).transpose := by
  change m.transpose.failed (cause.transpose.faultAt m.position.transpose) = _
  rw [Cause.faultAt_transpose]
  rfl

theorem fetch_transpose_of_ok {cell : Cell} (h : m.fetch = .ok cell) :
    m.transpose.fetch = .ok cell.transpose := by
  obtain ⟨hroom, hread⟩ := read_of_fetch_ok h
  exact fetch_of_read_ok (m := m.transpose) hroom (Playfield.read_transpose_of_ok hread)

theorem fetch_transpose_of_error {cause : Cause} (h : m.fetch = .error cause) :
    m.transpose.fetch = .error cause.transpose := by
  obtain ⟨limit, hspent, rfl⟩ | ⟨hroom, access, hread, rfl⟩ := cause_of_fetch_error h
  · exact fetch_of_exhausted (m := m.transpose) hspent
  · exact fetch_of_read_error (m := m.transpose) hroom (Playfield.read_transpose_of_error hread)

theorem due?_transpose (m : Machine) : m.transpose.due? = m.due?.map Cell.transpose := by
  by_cases hrun : m.status = .running
  · rw [due?_of_running hrun, due?_of_running (transpose_running_iff.mpr hrun)]
    cases hf : m.fetch with
    | ok cell => rw [fetch_transpose_of_ok hf]; rfl
    | error cause => rw [fetch_transpose_of_error hf]; rfl
  · rw [due?_of_not_running hrun,
      due?_of_not_running (mt transpose_running_iff.mp hrun)]
    rfl

theorem effect_transpose (h : m.stringMode = false) (cell : Cell) :
    m.transpose.effect cell.transpose = (m.effect cell).transpose := by
  change cell.transpose.effect m.stringMode _ _ = (cell.effect m.stringMode _ _).transpose
  rw [h]
  exact cell.effect_transpose _ _

theorem begin_transpose (h : m.stringMode = false) (cell : Cell) :
    m.transpose.begin cell.transpose = (m.begin cell).transpose := by
  have harity : cell.transpose.arity m.stringMode = cell.arity m.stringMode := by
    rw [h, Cell.arity_transpose]
  change { m.transpose with
    steps := m.steps + 1, stack := m.stack.drop (cell.transpose.arity m.stringMode) } = _
  rw [harity]
  rfl

theorem advance_transpose (m : Machine) : m.transpose.advance = m.advance.transpose := by
  change { m.transpose with position := m.position.transpose.next m.direction.transpose } = _
  rw [Position.next_transpose]
  rfl

theorem settle_transpose (m : Machine) : m.transpose.settle = m.settle.transpose := by
  have hd : m.transpose.destination = m.destination.transpose := by
    have hnext : m.position.transpose.next m.direction.transpose =
        (m.position.next m.direction).transpose := Position.next_transpose ..
    rw [destination, destination, status_transpose]
    cases m.status with
    | failed fault => rfl
    | running => exact hnext
    | halted => exact hnext
  rw [settle, hd]
  rfl

/-- What does not depend on the axes comes to the same on a transposed machine. -/
theorem apply_transpose (m : Machine) (host : σ) {e : Effect} (h : e.AxisBlind) :
    m.transpose.apply host e.transpose =
      ((m.apply host e).1.transpose, (m.apply host e).2) := by
  cases e with
  | skip => exact congrArg (·, host) m.advance_transpose
  | input format =>
      change m.transpose.receive host format.read = _
      simp only [apply, receive_eq]
      cases (format.read host).1 <;> rfl
  | output format v =>
      change m.transpose.deliver host (format.write v) = _
      simp only [apply, deliver_eq]
      cases (format.write v host).1 <;> rfl
  | turnRandomly | toggleStringMode | store | load => exact h.elim
  | push | turn | halt | divideByZero => rfl

/-- What does not depend on the axes leaves the playfield and the string mode alone. -/
theorem apply_of_axisBlind (m : Machine) (host : σ) {e : Effect} (h : e.AxisBlind) :
    (m.apply host e).1.playfield = m.playfield ∧
      (m.apply host e).1.stringMode = m.stringMode := by
  cases e with
  | input format =>
      simp only [apply, receive_eq]
      cases (format.read host).1 <;> exact ⟨rfl, rfl⟩
  | output format v =>
      simp only [apply, deliver_eq]
      cases (format.write v host).1 <;> exact ⟨rfl, rfl⟩
  | turnRandomly | toggleStringMode | store | load => exact h.elim
  | push | turn | skip | halt | divideByZero => exact ⟨rfl, rfl⟩

/-! ### Steps and runs -/

/-- A machine that does not ask for its axes never comes to ask. -/
theorem AxisBlind.step (h : m.AxisBlind) (host : σ) : (m.step host).1.AxisBlind := by
  obtain ⟨-, -, hs⟩ | ⟨-, -, cause, -, hs⟩ | ⟨-, cell, hd, -, hs⟩ := m.step_cases host
  · rw [hs]
    exact h
  · rw [hs]
    exact ⟨h.plain, h.cells⟩
  · obtain ⟨hfield, hmode⟩ := (m.begin cell).apply_of_axisBlind host (h.effect hd)
    rw [hs]
    refine ⟨hmode.trans h.plain, ?_⟩
    change ∀ c ∈ ((m.begin cell).apply host (m.effect cell)).1.playfield.cells, c.AxisBlind
    rw [hfield]
    exact h.cells

theorem hostCall?_transpose (h : m.stringMode = false) : m.transpose.hostCall? = m.hostCall? := by
  rw [hostCall?, hostCall?, due?_transpose]
  cases m.due? with
  | none => rfl
  | some cell =>
      change (m.transpose.effect cell.transpose).hostCall? = (m.effect cell).hostCall?
      rw [effect_transpose h, Effect.hostCall?_transpose]

/-- A step of the transposed machine is the transposed step, and the host cannot tell. -/
theorem step_transpose (h : m.AxisBlind) (host : σ) :
    m.transpose.step host = ((m.step host).1.transpose, (m.step host).2) := by
  obtain ⟨hrun, -, hs⟩ | ⟨hrun, -, cause, hf, hs⟩ | ⟨hrun, cell, hd, hf, hs⟩ := m.step_cases host
  · rw [hs, step_of_not_running (mt transpose_running_iff.mp hrun)]
  · rw [hs, step_of_fetch_error (transpose_running_iff.mpr hrun)
      (fetch_transpose_of_error hf), fail_transpose]
  · rw [hs, step_of_fetch_ok (transpose_running_iff.mpr hrun) (fetch_transpose_of_ok hf),
      begin_transpose h.plain, effect_transpose h.plain, apply_transpose _ host (h.effect hd),
      settle_transpose]

theorem stepN_transpose {n : Nat} (h : m.AxisBlind) (host : σ) :
    stepN n m.transpose host = ((stepN n m host).1.transpose, (stepN n m host).2) := by
  induction n generalizing m host with
  | zero => rfl
  | succ n ih => rw [stepN_succ, stepN_succ, step_transpose h, ih (h.step host)]

theorem answers_transpose {n : Nat} (h : m.AxisBlind) (host : σ) :
    answers n m.transpose host = (answers n m host).map (·.mapError Fault.transpose) := by
  induction n generalizing m host with
  | zero => rfl
  | succ n ih =>
      rw [answers_succ, answers_succ, step_transpose h, ih (h.step host), answer_transpose]
      rfl

theorem hostCalls_transpose {n : Nat} (h : m.AxisBlind) (host : σ) :
    hostCalls n m.transpose host = hostCalls n m host := by
  induction n generalizing m host with
  | zero => rfl
  | succ n ih =>
      rw [hostCalls, hostCalls, hostCall?_transpose h.plain, step_transpose h, ih (h.step host)]

/-- Rows and columns are treated alike. Exchange them in a machine that is outside string mode and
whose playfield has no instruction that would notice. Then any number of steps makes the same host
calls, with the same answers but for the coordinates in them, and leads to the machine that it leads
to without the exchange, exchanged. A machine that fails does so for a cause of the same kind, at the
exchanged position, and for the very same cause unless the cause is an access out of bounds. -/
theorem rows_and_columns_alike {m : Machine} (h : m.AxisBlind) (n : Nat) (host : σ) :
    hostCalls n m.transpose host = hostCalls n m host ∧
    answers n m.transpose host = (answers n m host).map (·.mapError Fault.transpose) ∧
    stepN n m.transpose host = ((stepN n m host).1.transpose, (stepN n m host).2) ∧
    ∀ fault, (stepN n m host).1.error = some fault →
      ∃ exchanged, (stepN n m.transpose host).1.error = some exchanged ∧
        exchanged.kind = fault.kind ∧ exchanged.position = fault.position.transpose ∧
        (fault.cause.kind ≠ .outOfBounds → exchanged.cause = fault.cause) := by
  refine ⟨hostCalls_transpose h host, answers_transpose h host, stepN_transpose h host, ?_⟩
  intro fault hfailed
  refine ⟨fault.transpose, ?_, rfl, rfl, Cause.transpose_of_kind_ne⟩
  rw [stepN_transpose h]
  exact congrArg (Option.map Fault.transpose) hfailed

/-- A program that reads a zero turns down, then right, and leaves the playfield on the right; the
exchanged one turns right, then down, and leaves it at the bottom. -/
theorem rows_and_columns_alike_of_exit :
    let f : Playfield := ⟨2, 3, #[.instruction .inputInteger, .instruction .duplicate,
      .instruction .down, .instruction .halt, .instruction .outputInteger,
      .instruction .horizontalIf], by decide, by decide, rfl⟩
    let m := start f 0 none
    let host := Console.ofInput (Utf8.encode ['0', '\n']) {}
    m.AxisBlind ∧
      (hostCalls 5 m.transpose host).map Prod.fst = [.read .integer] ∧
      answers 5 m.transpose host =
        List.replicate 4 (.ok .running) ++
          [.error ((Cause.outOfBounds ⟨⟨3, 1⟩, 3, 2⟩).faultAt ⟨3, 1⟩)] ∧
      ∃ exchanged, (stepN 5 m.transpose host).1.error = some exchanged ∧
        exchanged.kind = .outOfBounds ∧ exchanged.position = ⟨3, 1⟩ := by
  intro f m host
  have hblind : m.AxisBlind := ⟨rfl, by decide⟩
  have hanswers : answers 5 m host =
      List.replicate 4 (.ok .running) ++
        [.error ((Cause.outOfBounds ⟨⟨1, 3⟩, 2, 3⟩).faultAt ⟨1, 3⟩)] := by decide
  have hcalls : (hostCalls 5 m host).map Prod.fst = [.read .integer] := by decide
  have hfailed : (stepN 5 m host).1.error =
      some ((Cause.outOfBounds ⟨⟨1, 3⟩, 2, 3⟩).faultAt ⟨1, 3⟩) := by decide
  obtain ⟨hsame, hflipped, -, hfault⟩ := rows_and_columns_alike hblind 5 host
  obtain ⟨exchanged, hends, hkind, hposition, -⟩ := hfault _ hfailed
  refine ⟨hblind, ?_, ?_, exchanged, hends, hkind, hposition⟩
  · rw [hsame, hcalls]
  · rw [hflipped, hanswers]
    rfl

end Machine

end Funge
