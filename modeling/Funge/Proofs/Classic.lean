import Funge.Console
import Funge.Proofs.CanonicalCell
import Funge.Proofs.Observation

/-!
# The classic machine

The language is usually explained on a playfield of plain numbers: every place holds a value, a
character is its code point, and what a value does is found out when the instruction pointer gets
there. `Classic` is this machine, with a playfield that is a function of the position. A machine
that runs a program text is a classic machine as soon as each cell is taken for its value: `plain`
is this change of view, `callStep_plain` says that it commutes with steps as long as all cells are
canonical, and they are for the whole run of a loaded text.
-/

namespace Funge

variable {σ : Type} [Host σ]

/-! ### A playfield of values -/

/-- A rectangle with a value at every position. -/
structure ValueField where
  height : Nat
  width : Nat
  value : Position → Int64

namespace ValueField

/-- A position lies inside the rectangle. -/
def Contains (g : ValueField) (p : Position) : Prop :=
  0 ≤ p.row ∧ p.row < g.height ∧ 0 ≤ p.col ∧ p.col < g.width

instance (g : ValueField) (p : Position) : Decidable (g.Contains p) :=
  inferInstanceAs (Decidable (_ ∧ _ ∧ _ ∧ _))

/-- The value at a position of the rectangle. -/
def read (g : ValueField) (p : Position) : Except OutOfBounds Int64 :=
  if g.Contains p then .ok (g.value p) else .error ⟨p, g.height, g.width⟩

/-- The rectangle with another value at one of its positions. -/
def write (g : ValueField) (p : Position) (v : Int64) : Except OutOfBounds ValueField :=
  if g.Contains p then .ok { g with value := fun q => if q = p then v else g.value q }
  else .error ⟨p, g.height, g.width⟩

/-- The code points of a program text, line by line, and the code point of a space wherever the text
has no character. -/
def ofSource (source : String) : ValueField :=
  let lines := Lines.rows source.toList
  { height := lines.length
    width := (lines.map List.length).foldr max 0
    value := fun p => ((p.lookup? lines).map CodePoint.value).getD 32 }

end ValueField

/-! ### The machine -/

/-- What a value tells the classic machine to do. -/
inductive Meaning where
  | push (value : Int64)
  | perform (instruction : Instruction)
  | nothing
deriving DecidableEq, Repr

namespace Meaning

/-- In string mode a quotation mark ends the mode and every other value is data. Otherwise a value
is a digit, or the glyph of an instruction, or means nothing. -/
def ofValue (stringMode : Bool) (v : Int64) : Meaning :=
  if stringMode then
    if v = 34 then perform .stringMode else push v
  else if 48 ≤ v ∧ v ≤ 57 then push (v - 48)
  else match Instruction.ofCodePoint? v with
    | some i => perform i
    | none => nothing

/-- How many operands are taken. -/
def arity : Meaning → Nat
  | perform i => i.arity
  | push _ | nothing => 0

/-- The effect on the operands and on the next random direction. -/
def effect (operand : Nat → Int64) (drawn : Direction × Generator) : Meaning → Effect
  | push v => .push [v]
  | perform i => i.effect operand drawn
  | nothing => .push []

end Meaning

/-- A classic machine between two steps. -/
structure Classic where
  field : ValueField
  stack : Stack
  position : Position
  direction : Direction
  stringMode : Bool
  state : State
  error : Option Fault
  generator : Generator
  steps : Nat
  budget : Option UInt64

namespace Classic

/-- A machine about to run a program from its top left corner, heading right. -/
def start (field : ValueField) (seed : UInt64) (budget : Option UInt64) : Classic where
  field := field
  stack := .empty
  position := .origin
  direction := .right
  stringMode := false
  state := .running
  error := none
  generator := .ofSeed seed
  steps := 0
  budget := budget

/-- The machine after it failed where it stands. -/
def failHere (c : Classic) (cause : Cause) : Classic :=
  { c with state := .failed cause.kind, error := some (cause.faultAt c.position) }

/-- The instruction pointer moves on by one cell. -/
def advance (c : Classic) : Classic := { c with position := c.position.next c.direction }

/-- Put a value on the stack. -/
def push (c : Classic) (v : Int64) : Classic := { c with stack := c.stack.push v }

/-- Store a value itself. -/
def store (c : Classic) (p : Position) (v : Int64) : Classic :=
  match c.field.write p v with
  | .ok field => { c with field := field }
  | .error access => c.failHere (.outOfBounds access)

/-- Push the stored value itself. -/
def load (c : Classic) (p : Position) : Classic :=
  match c.field.read p with
  | .ok v => c.push v
  | .error access => c.failHere (.outOfBounds access)

/-- Push a value that the host reads. -/
def accept (c : Classic) (host : σ) (read : σ → Except InputFault Int64 × σ) : Classic × σ :=
  match read host with
  | (.ok v, host) => (c.push v, host)
  | (.error fault, host) => (c.failHere (.input fault), host)

/-- Have the host write a value. -/
def deliver (c : Classic) (host : σ) (write : σ → Except DeviceFault Unit × σ) : Classic × σ :=
  match write host with
  | (.ok _, host) => (c, host)
  | (.error fault, host) => (c.failHere (.output fault), host)

/-- Carry an effect out. -/
def apply (c : Classic) (host : σ) : Effect → Classic × σ
  | .push values => ({ c with stack := values.foldl Stack.push c.stack }, host)
  | .turn direction => ({ c with direction := direction }, host)
  | .turnRandomly drawn => ({ c with direction := drawn.1, generator := drawn.2 }, host)
  | .toggleStringMode => ({ c with stringMode := !c.stringMode }, host)
  | .skip => (c.advance, host)
  | .halt => ({ c with state := .halted }, host)
  | .divideByZero => (c.failHere .divisionByZero, host)
  | .store p v => (c.store p v, host)
  | .load p => (c.load p, host)
  | .input format => c.accept host format.read
  | .output format v => c.deliver host (format.write v)

/-- The value to be executed next, or why there is none. -/
def fetch (c : Classic) : Except Cause Int64 :=
  match c.budget.filter fun limit => limit.toNat ≤ c.steps with
  | some limit => .error (.stepLimit limit)
  | none => (c.field.read c.position).mapError .outOfBounds

/-- Execute a value, the move to the next one aside: count it, take its operands off the stack, and
carry its effect out. -/
def execute (c : Classic) (host : σ) (v : Int64) : Classic × σ :=
  let meaning := Meaning.ofValue c.stringMode v
  apply { c with steps := c.steps + 1, stack := c.stack.drop meaning.arity } host
    (meaning.effect c.stack.peek c.generator.next)

/-- The end of a step on a value. -/
def conclude (c : Classic) (host : σ) : Call Classic σ State :=
  match c.error with
  | some fault => ⟨.error fault, c, host, []⟩
  | none => ⟨.ok c.state, c.advance, host, []⟩

/-- A call of `step`. It reports nothing. -/
def callStep (c : Classic) (host : σ) : Call Classic σ State :=
  match c.error with
  | some fault => ⟨.error fault, c, host, []⟩
  | none =>
    if c.state = .halted then ⟨.ok .halted, c, host, []⟩
    else match c.fetch with
      | .error cause => ⟨.error (cause.faultAt c.position), c.failHere cause, host, []⟩
      | .ok v =>
        let (after, host) := c.execute host v
        after.conclude host

end Classic

/-! ### Cells taken for their values -/

namespace Playfield

/-- The values of the cells, and the code point of a space outside the rectangle. -/
def plain (f : Playfield) : ValueField where
  height := f.height
  width := f.width
  value p :=
    match f.read p with
    | .ok cell => cell.value
    | .error _ => 32

theorem value_plain {f : Playfield} {p : Position} {cell : Cell} (h : f.read p = .ok cell) :
    f.plain.value p = cell.value := by
  simp only [plain, h]

theorem value_plain_of_not_contains {f : Playfield} {p : Position} (h : ¬ f.Contains p) :
    f.plain.value p = 32 := by
  simp only [plain, read_of_not_contains h]

theorem read_plain (f : Playfield) (p : Position) :
    f.plain.read p = (f.read p).map Cell.value := by
  by_cases hp : f.Contains p
  · have hplain : f.plain.Contains p := hp
    obtain ⟨cell, hread⟩ := exists_read hp
    rw [ValueField.read, if_pos hplain, value_plain hread, hread]
    rfl
  · have hplain : ¬ f.plain.Contains p := hp
    rw [ValueField.read, if_neg hplain, read_of_not_contains hp]
    rfl

/-- To store a value is to store the cell that it becomes. -/
theorem write_plain (f : Playfield) (p : Position) (v : Int64) :
    f.plain.write p v = (f.write p (Cell.ofValue v)).map plain := by
  by_cases hp : f.Contains p
  · have hplain : f.plain.Contains p := hp
    obtain ⟨g, hw⟩ := exists_write hp (Cell.ofValue v)
    obtain ⟨-, hheight, hwidth, -⟩ := of_write_eq_ok hw
    have hvalue : (fun q => if q = p then v else f.plain.value q) = g.plain.value := by
      funext q
      by_cases hq : q = p
      · rw [if_pos hq, hq, value_plain (read_write_self hw), Cell.value_ofValue]
      · rw [if_neg hq]
        simp only [plain, read_write_of_ne hw hq]
    rw [ValueField.write, if_pos hplain, hvalue, hw]
    simp only [plain, Except.map, hheight, hwidth]
  · have hplain : ¬ f.plain.Contains p := hp
    rw [ValueField.write, if_neg hplain, write_of_not_contains hp]
    rfl

/-- A loaded text has the code points of the text as its values. -/
theorem plain_ofSource? {source : String} {f : Playfield} (h : ofSource? source = some f) :
    f.plain = .ofSource source := by
  obtain ⟨hheight, hwidth, -⟩ := of_ofRows?_eq_some h
  rw [List.length_map] at hheight
  have hlengths : ((Lines.rows source.toList).map (List.map Cell.ofChar)).map List.length =
      (Lines.rows source.toList).map List.length := by
    rw [List.map_map]
    exact List.map_congr_left fun line _ => List.length_map _
  rw [widest, hlengths] at hwidth
  have hvalue : f.plain.value = (ValueField.ofSource source).value := by
    funext p
    change _ = ((p.lookup? (Lines.rows source.toList)).map CodePoint.value).getD 32
    by_cases hp : f.Contains p
    · rw [value_plain (read_ofRows? h hp), Position.lookup?_map]
      cases p.lookup? (Lines.rows source.toList) with
      | none => rfl
      | some c => exact Cell.value_ofChar c
    · have hnone := lookup?_of_not_contains h hp
      rw [Position.lookup?_map, Option.map_eq_none_iff] at hnone
      rw [value_plain_of_not_contains hp, hnone]
      rfl
  calc f.plain = ⟨f.height, f.width, f.plain.value⟩ := rfl
    _ = .ofSource source := by rw [hheight, hwidth, hvalue]; rfl

end Playfield

namespace Meaning

variable (operand : Nat → Int64) (drawn : Direction × Generator)

/-- In string mode a stored value is pushed unchanged, unless its cell ends the mode. -/
theorem ofValue_true (v : Int64) :
    (ofValue true v).arity = (Cell.ofValue v).arity true ∧
      (ofValue true v).effect operand drawn = (Cell.ofValue v).effect true operand drawn := by
  by_cases hv : v = 34
  · subst hv
    have hcell : Cell.ofValue 34 = .instruction .stringMode := by decide
    rw [hcell]
    exact ⟨rfl, rfl⟩
  · have hdata : (Cell.ofValue v).IsData true := by
      refine ⟨rfl, fun heq => hv ?_⟩
      rw [← Cell.value_ofValue v, heq]
      rfl
    have hmeaning : ofValue true v = push v := if_neg hv
    have harity : (Cell.ofValue v).arity true = 0 := if_pos hdata
    have heffect : (Cell.ofValue v).effect true operand drawn = .push [v] := by
      refine (if_pos hdata).trans ?_
      rw [Cell.value_ofValue]
    rw [hmeaning, harity, heffect]
    exact ⟨rfl, rfl⟩

/-- Outside string mode the cell of a value is what the value means. -/
theorem ofValue_false (v : Int64) :
    (ofValue false v).arity = (Cell.ofValue v).arity false ∧
      (ofValue false v).effect operand drawn = (Cell.ofValue v).effect false operand drawn := by
  by_cases hdigit : 48 ≤ v ∧ v ≤ 57
  · have hmeaning : ofValue false v = push (v - 48) := if_pos hdigit
    rw [hmeaning, ← Cell.ofNat_digit hdigit, Cell.ofValue_eq, if_pos hdigit]
    exact ⟨rfl, rfl⟩
  · have hmeaning : ofValue false v =
        match Instruction.ofCodePoint? v with
        | some i => perform i
        | none => nothing := if_neg hdigit
    rw [hmeaning, Cell.ofValue_eq, if_neg hdigit]
    by_cases hblank : v = 32
    · subst hblank
      exact ⟨rfl, rfl⟩
    · rw [if_neg hblank]
      cases Instruction.ofCodePoint? v <;> exact ⟨rfl, rfl⟩

/-- A canonical cell does what its value means. -/
theorem ofValue_value {cell : Cell} (h : cell.IsCanonical) (stringMode : Bool) :
    (ofValue stringMode cell.value).arity = cell.arity stringMode ∧
      (ofValue stringMode cell.value).effect operand drawn =
        cell.effect stringMode operand drawn := by
  obtain ⟨v, rfl⟩ : ∃ v, cell = Cell.ofValue v := ⟨cell.value, h.symm⟩
  rw [Cell.value_ofValue]
  cases stringMode with
  | true => exact ofValue_true operand drawn v
  | false => exact ofValue_false operand drawn v

end Meaning

namespace Machine

/-- The classic machine that a machine is when its cells are taken for their values. -/
def plain (m : Machine) : Classic where
  field := m.playfield.plain
  stack := m.stack
  position := m.position
  direction := m.direction
  stringMode := m.stringMode
  state := m.state
  error := m.error
  generator := m.generator
  steps := m.steps
  budget := m.budget

theorem fetch_plain (m : Machine) : m.plain.fetch = m.fetch.map Cell.value := by
  have he : m.plain.budget.filter (fun limit => limit.toNat ≤ m.plain.steps) = m.exhausted? := rfl
  rw [Classic.fetch, he, fetch]
  cases m.exhausted? with
  | some limit => rfl
  | none =>
      change (m.playfield.plain.read m.position).mapError Cause.outOfBounds = _
      rw [Playfield.read_plain]
      cases m.playfield.read m.position <;> rfl

@[simp] theorem field_plain (m : Machine) : m.plain.field = m.playfield.plain := rfl

theorem store_plain (m : Machine) (p : Position) (v : Int64) :
    m.plain.store p v = (m.store p v).plain := by
  rw [Classic.store, store, field_plain, Playfield.write_plain]
  cases m.playfield.write p (Cell.ofValue v) <;> rfl

theorem load_plain (m : Machine) (p : Position) :
    m.plain.load p = (m.load p).plain := by
  rw [Classic.load, load, field_plain, Playfield.read_plain]
  cases m.playfield.read p <;> rfl

theorem apply_plain (m : Machine) (host : σ) (e : Effect) :
    m.plain.apply host e = ((m.apply host e).1.plain, (m.apply host e).2) := by
  cases e with
  | store p v => exact congrArg (·, host) (m.store_plain p v)
  | load p => exact congrArg (·, host) (m.load_plain p)
  | input format =>
      simp only [Classic.apply, Classic.accept, apply, receive]
      rcases format.read host with ⟨answer, after⟩
      cases answer <;> rfl
  | output format v =>
      simp only [Classic.apply, Classic.deliver, apply, deliver]
      rcases format.write v host with ⟨answer, after⟩
      cases answer <;> rfl
  | _ => rfl

theorem execute_plain {m : Machine} {cell : Cell} (h : cell.IsCanonical) (host : σ) :
    m.plain.execute host cell.value =
      (((m.begin cell).apply host (m.effect cell)).1.plain,
        ((m.begin cell).apply host (m.effect cell)).2) := by
  obtain ⟨harity, heffect⟩ :=
    Meaning.ofValue_value m.stack.peek m.generator.next h m.stringMode
  rw [← apply_plain]
  change Classic.apply { m.plain with
      steps := m.steps + 1
      stack := m.stack.drop (Meaning.ofValue m.stringMode cell.value).arity } host
    ((Meaning.ofValue m.stringMode cell.value).effect m.stack.peek m.generator.next) = _
  rw [harity, heffect]
  rfl

omit [Host σ] in
theorem conclude_plain (m : Machine) (host : σ) :
    m.plain.conclude host = ⟨m.answer, m.settle.plain, host, []⟩ := by
  have herror : m.plain.error = m.error := rfl
  rw [Classic.conclude, herror, answer]
  cases he : m.error with
  | some fault => rw [settle_of_failed (status_eq_failed_iff.mpr he)]
  | none =>
      have hok : ∀ fault, m.status ≠ .failed fault := fun fault hs => by
        cases he.symm.trans (status_eq_failed_iff.mp hs)
      rw [settle_of_not_failed hok]
      rfl

/-- A machine on canonical cells answers a call of `step` as the classic machine does, and takes the
same step. -/
theorem callStep_plain {m : Machine} (h : m.playfield.IsCanonical) (host : σ) :
    m.plain.callStep host =
      ⟨(m.callStep host).answer, (m.step host).1.plain, (m.step host).2, []⟩ := by
  have herror : m.plain.error = m.error := rfl
  have hstate : m.plain.state = m.state := rfl
  rw [answer_callStep, Classic.callStep, herror, hstate]
  obtain ⟨hended, -, hs⟩ | ⟨hrun, -, cause, hf, hs⟩ | ⟨hrun, cell, -, hf, hs⟩ := m.step_cases host
  · rw [hs, answer]
    cases he : m.error with
    | some fault => rfl
    | none =>
        have hhalted : m.state = .halted := Decidable.byContradiction fun hstate =>
          hended (status_eq_running_iff.mpr ⟨he, hstate⟩)
        simp only [hhalted, if_true]
  · obtain ⟨he, hstate⟩ := status_eq_running_iff.mp hrun
    have hfetch : m.plain.fetch = .error cause := by rw [fetch_plain, hf]; rfl
    rw [hs]
    simp only [he, if_neg hstate, hfetch]
    rfl
  · obtain ⟨he, hstate⟩ := status_eq_running_iff.mp hrun
    have hfetch : m.plain.fetch = .ok cell.value := by rw [fetch_plain, hf]; rfl
    have hcell : cell.IsCanonical := h m.position cell (read_of_fetch_ok hf).2
    rw [hs]
    simp only [he, if_neg hstate, hfetch, execute_plain hcell, conclude_plain, answer_settle]

/-- So it does for any number of calls. -/
theorem stepN_plain {m : Machine} (h : m.playfield.IsCanonical) (n : Nat) (host : σ) :
    Call.answers Classic.callStep n m.plain host = answers n m host ∧
      Call.iterate Classic.callStep n m.plain host =
        ((stepN n m host).1.plain, (stepN n m host).2) := by
  induction n generalizing m host with
  | zero => exact ⟨rfl, rfl⟩
  | succ n ih =>
      obtain ⟨hanswers, hrun⟩ := ih (isCanonical_step h host) (m.step host).2
      simp only [Call.answers, Call.iterate, callStep_plain h host, hanswers, hrun]
      exact ⟨rfl, rfl⟩

/-- A machine that runs a program text is the classic machine on the code points of the text: every
step gives the same answer, and after any number of steps the machines agree on everything, with the
value of a cell wherever the classic machine has a value. -/
theorem stepN_refines_classic {source : String} {f : Playfield}
    (h : Playfield.ofSource? source = some f) (seed : UInt64) (budget : Option UInt64) (n : Nat)
    (host : σ) :
    let m := Machine.start f seed budget
    let c := Classic.start (.ofSource source) seed budget
    Call.answers Classic.callStep n c host = answers n m host ∧
      Call.iterate Classic.callStep n c host = ((stepN n m host).1.plain, (stepN n m host).2) ∧
      ∀ p cell, (stepN n m host).1.playfield.read p = .ok cell →
        (Call.iterate Classic.callStep n c host).1.field.value p = cell.value := by
  intro m c
  have hstart : c = m.plain := by
    change Classic.start (.ofSource source) seed budget = _
    rw [← Playfield.plain_ofSource? h]
    rfl
  obtain ⟨hanswers, hrun⟩ := stepN_plain (m := m) (Playfield.isCanonical_ofSource? h) n host
  rw [hstart]
  refine ⟨hanswers, hrun, fun p cell hread => ?_⟩
  rw [hrun]
  exact Playfield.value_plain hread

/-- A program that writes the instruction to halt into its own last cell, from a character it has
pushed as data, is halted by it on both machines. -/
theorem stepN_refines_classic_of_selfModification :
    let source := "\x22@\x2206p "
    let f : Playfield := ⟨1, 7, #[.instruction .stringMode, .instruction .halt,
      .instruction .stringMode, .digit 0, .digit 6, .instruction .put, .blank],
      by decide, by decide, rfl⟩
    let host := Console.ofInput [] {}
    Playfield.ofSource? source = some f ∧ (stepN 7 (.start f 0 none) host).1.state = .halted ∧
      Call.answers Classic.callStep 7 (.start (.ofSource source) 0 none) host =
        answers 7 (.start f 0 none) host ∧
      (Call.iterate Classic.callStep 7 (.start (.ofSource source) 0 none) host).1.field.value
        ⟨0, 6⟩ = 64 := by
  intro source f host
  have h : Playfield.ofSource? source = some f := by decide
  have hhalted : (stepN 7 (.start f 0 none) host).1.state = .halted := by decide
  have hread : (stepN 7 (.start f 0 none) host).1.playfield.read ⟨0, 6⟩ =
      .ok (.instruction .halt) := by
    rw [Playfield.read_eq_ok_iff]
    decide
  have hvalue : (Cell.instruction .halt).value = 64 := rfl
  obtain ⟨hanswers, -, hvalues⟩ := stepN_refines_classic h 0 none 7 host
  exact ⟨h, hhalted, hanswers, (hvalues ⟨0, 6⟩ _ hread).trans hvalue⟩

end Machine

end Funge
