import Funge.Console
import Funge.Proofs.Effect
import Funge.Proofs.Reachable

/-!
# What the end of a run says

A machine that has ended says why, and the place where it stands bears it out: a failed machine
stands on the instruction that failed, or off the playfield, or has used up its budget, and a halted
machine has just passed a halt instruction. `Accounted` states this together with the bound on the
count of cells that every step needs; `Accounted.step` is the one step of the induction.
-/

namespace Funge

/-! ### Looking at a machine -/

/-- The direction that leads back. -/
def Direction.opposite : Direction → Direction
  | up => down
  | down => up
  | left => right
  | right => left

@[simp] theorem Position.next_next_opposite (p : Position) (d : Direction) :
    (p.next d).next d.opposite = p := by
  cases d <;> simp [next, Direction.opposite]

namespace Machine

/-- The position one step behind the instruction pointer, against its direction. -/
def behind (m : Machine) : Position := m.position.next m.direction.opposite

/-- The machine carries cells out, and the one under the instruction pointer is an instruction out
of a list. -/
def StandsOn (m : Machine) (instructions : List Instruction) : Prop :=
  m.stringMode = false ∧ ∃ i ∈ instructions, m.playfield.read m.position = .ok (.instruction i)

/-- What is found where a machine stands that failed for a kind of cause. -/
def BearsOut (m : Machine) : FaultKind → Prop
  | .divisionByZero => m.StandsOn [.divide, .modulo]
  | .input => m.StandsOn [.inputInteger, .inputChar]
  | .output => m.StandsOn [.outputInteger, .outputChar]
  | .outOfBounds => ¬ m.playfield.Contains m.position ∨ m.StandsOn [.put, .get]
  | .stepLimit => ∃ limit, m.budget = some limit ∧ m.steps = limit.toNat

/-- The end of a machine is accounted for by the place where it stands. -/
structure Accounted (m : Machine) : Prop where
  withinBudget : ∀ limit, m.budget = some limit → m.steps ≤ limit.toNat
  failed : ∀ fault, m.status = .failed fault → fault.position = m.position ∧ m.BearsOut fault.kind
  halted : m.status = .halted →
    m.stringMode = false ∧ m.playfield.read m.behind = .ok (.instruction .halt)

theorem bearsOut_of_standsOn {m : Machine} {kind : FaultKind} (h : m.StandsOn kind.culprits) :
    m.BearsOut kind := by
  cases kind with
  | outOfBounds => exact .inr h
  | stepLimit =>
      obtain ⟨-, i, hmem, -⟩ := h
      cases hmem
  | divisionByZero => exact h
  | input => exact h
  | output => exact h

namespace Accounted

variable {σ : Type} [Host σ] {m : Machine}

theorem start (f : Playfield) (seed : UInt64) (budget : Option UInt64) :
    Accounted (Machine.start f seed budget) where
  withinBudget _ _ := Nat.zero_le _
  failed _ h := nomatch h
  halted h := nomatch h

/-- A machine that cannot fetch a cell has used up its budget or is off the playfield. -/
theorem fail_of_fetch_error (h : m.Accounted) {cause : Cause} (hf : m.fetch = .error cause) :
    (m.failHere cause).Accounted where
  withinBudget := h.withinBudget
  failed := by
    rintro fault ⟨⟩
    refine ⟨rfl, ?_⟩
    obtain ⟨limit, hl, rfl⟩ | ⟨-, access, hr, rfl⟩ := cause_of_fetch_error hf
    · obtain ⟨hb, hle⟩ := exhausted?_eq_some_iff.mp hl
      exact ⟨limit, hb, Nat.le_antisymm (h.withinBudget limit hb) hle⟩
    · exact .inl (Playfield.not_contains_of_read_error hr)
  halted h := by cases h

/-- The cell that is executed accounts for how its effect ends, whatever was before. -/
theorem settle_of_fetch_ok (hrun : m.status = .running) {cell : Cell} (hf : m.fetch = .ok cell)
    (host : σ) :
    ((m.begin cell).apply host (m.effect cell)).1.settle.Accounted := by
  obtain ⟨hroom, hread⟩ := read_of_fetch_ok hf
  obtain ⟨hsteps, hbudget⟩ := apply_counters (m.begin cell) host (m.effect cell)
  refine ⟨?_, ?_, ?_⟩
  · intro limit hl
    have hb : m.budget = some limit := hbudget.symm.trans hl
    have hlt : m.steps < limit.toNat := steps_lt_of_exhausted?_eq_none hroom hb
    have hcount : ((m.begin cell).apply host (m.effect cell)).1.settle.steps = m.steps + 1 := hsteps
    omega
  · intro fault hfault
    rw [status_settle] at hfault
    obtain ⟨hposition, hmode, i, hmem, rfl, hsettle⟩ := exists_culprit_of_failed hrun hfault
    rw [hsettle]
    exact ⟨hposition, bearsOut_of_standsOn ⟨hmode, i, hmem, hread⟩⟩
  · intro hhalted
    rw [status_settle] at hhalted
    have he : m.effect cell = .halt := eq_halt_of_apply_halted (m := m.begin cell) hrun hhalted
    obtain ⟨hmode, rfl⟩ := Cell.eq_halt_of_effect he
    have hsettle := settle_halted (m := m.begin (.instruction .halt)) hrun
    rw [he]
    refine ⟨hmode, ?_⟩
    rw [apply, hsettle]
    change m.playfield.read ((m.position.next m.direction).next m.direction.opposite) = _
    rw [Position.next_next_opposite, hread]

theorem step (h : m.Accounted) (host : σ) : (m.step host).1.Accounted := by
  obtain ⟨-, -, hs⟩ | ⟨-, -, cause, hf, hs⟩ | ⟨hrun, cell, -, hf, hs⟩ := m.step_cases host
  · rw [hs]
    exact h
  · rw [hs]
    exact h.fail_of_fetch_error hf
  · rw [hs]
    exact settle_of_fetch_ok hrun hf host

end Accounted

section

variable {σ : Type} [Host σ] {m m₀ : Machine} {host₀ host : σ}

theorem Reachable.accounted {f : Playfield} {seed : UInt64} {budget : Option UInt64}
    (h : Reachable (Machine.start f seed budget) host₀ m host) : m.Accounted :=
  h.invariant (.start f seed budget) fun _ host hm => hm.step host

theorem Reachable.budget_eq (h : Reachable m₀ host₀ m host) : m.budget = m₀.budget :=
  h.invariant (P := fun m => m.budget = m₀.budget) rfl fun m host hm => (step_budget m host).trans hm

end

/-! ### What is stored -/

/-- The fault that a machine keeps is borne out by where it stands. -/
theorem Accounted.bearsOut {m : Machine} (h : m.Accounted) (hm : m.Coherent) {kind : FaultKind}
    (hs : m.state = .failed kind) : m.BearsOut kind := by
  obtain ⟨fault, hfault, rfl⟩ := (hm kind).mp hs
  exact (h.failed fault (status_eq_failed_iff.mpr hfault)).2

/-- The state of a machine tells the truth about why its run stopped, whatever program it runs and
however it was driven there. A fault is stored exactly when the state is a failure, and then it has
the kind of the state and the position of the machine. A failed instruction is the one under the
instruction pointer; a machine out of bounds is off the playfield or at an instruction that
addresses it; a machine over its limit has executed as many cells as the limit says; and a halted
machine has just left a halt instruction. -/
theorem state_accounted_of_reachable {σ : Type} [Host σ] {f : Playfield} {seed : UInt64}
    {budget : Option UInt64} {m : Machine} {host₀ host : σ}
    (h : Reachable (Machine.start f seed budget) host₀ m host) :
    (∀ kind, m.state = .failed kind ↔ ∃ fault, m.error = some fault ∧ fault.kind = kind) ∧
    (∀ fault, m.error = some fault → fault.position = m.position) ∧
    (m.state = .failed .divisionByZero → m.StandsOn [.divide, .modulo]) ∧
    (m.state = .failed .input → m.StandsOn [.inputInteger, .inputChar]) ∧
    (m.state = .failed .output → m.StandsOn [.outputInteger, .outputChar]) ∧
    (m.state = .failed .outOfBounds →
      ¬ m.playfield.Contains m.position ∨ m.StandsOn [.put, .get]) ∧
    (m.state = .failed .stepLimit → ∃ limit, budget = some limit ∧ m.steps = limit.toNat) ∧
    (m.state = .halted → m.stringMode = false ∧ m.error = none ∧
      m.playfield.read m.behind = .ok (.instruction .halt)) := by
  have ha : m.Accounted := h.accounted
  have hm : m.Coherent := h.coherent (.start f seed budget)
  have hb : m.budget = budget := h.budget_eq
  refine ⟨hm, ?_, ha.bearsOut hm, ha.bearsOut hm, ha.bearsOut hm, ha.bearsOut hm, ?_, ?_⟩
  · intro fault hfault
    exact (ha.failed fault (status_eq_failed_iff.mpr hfault)).1
  · intro hs
    rw [← hb]
    exact ha.bearsOut hm hs
  · intro hs
    have hstatus := hm.status_eq_halted_iff.mpr hs
    obtain ⟨hmode, hread⟩ := ha.halted hstatus
    exact ⟨hmode, (status_eq_halted_iff.mp hstatus).1, hread⟩

/-- A call of `run` that divides by zero leaves a reachable machine that stands on its division. -/
theorem state_accounted_of_division :
    let f : Playfield := ⟨1, 1, #[.instruction .divide], by decide, by decide, rfl⟩
    let start := Machine.start f 0 none
    ∃ call, callRun 3 start (Console.ofInput [] {}) = some call ∧
      call.machine.state = .failed .divisionByZero ∧ call.machine.StandsOn [.divide, .modulo] := by
  intro f start
  obtain ⟨call, hcall, hs⟩ : ∃ call, callRun 3 start (Console.ofInput [] {}) = some call ∧
      call.machine.state = .failed .divisionByZero := ⟨_, rfl, by decide⟩
  exact ⟨call, hcall, hs, (state_accounted_of_reachable (Reachable.run (.refl _ _) hcall)).2.2.1 hs⟩

end Machine

end Funge
