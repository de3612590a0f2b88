import Funge.Machine.Run

/-!
# How a machine stands

A machine keeps its state and the fault it failed with in two places, and it looks at both of them
to find out how to go on. `Machine.status` is what it finds there: a machine with a fault has
failed, one without a fault has halted or goes on. What a step does to a machine depends on the two
places only through its status (`callStep_of_not_running`, `callStep_of_fetch_error`,
`callStep_of_fetch_ok`), and a call of `step` always answers what these places say after it
(`answer_callStep`).

The places agree if the state is a failure exactly when there is a fault, of the same kind. Nothing
keeps a machine from being built otherwise, so that they do is an invariant (`Coherent.step`).
-/

namespace Funge

/-- How a machine stands. -/
inductive Status where
  | running
  | halted
  | failed (fault : Fault)
deriving DecidableEq, Repr

/-- The answer that tells how a machine stands. -/
def Status.answer : Status → Except Fault State
  | running => .ok .running
  | halted => .ok .halted
  | failed fault => .error fault

namespace Machine

variable {σ : Type} {m : Machine}

/-- How a machine stands: a fault comes before everything else. -/
def status (m : Machine) : Status :=
  match m.error with
  | some fault => .failed fault
  | none => if m.state = .halted then .halted else .running

/-- What a machine answers when it is asked how it stands. -/
def answer (m : Machine) : Except Fault State :=
  match m.error with
  | some fault => .error fault
  | none => .ok m.state

/-- The machine after it failed where it stands. -/
def failHere (m : Machine) (cause : Cause) : Machine := m.failed (cause.faultAt m.position)

@[simp] theorem status_failHere (m : Machine) (cause : Cause) :
    (m.failHere cause).status = .failed (cause.faultAt m.position) := rfl

theorem status_eq_failed_iff {fault : Fault} : m.status = .failed fault ↔ m.error = some fault := by
  rw [status]
  cases m.error with
  | some found => simp
  | none =>
      by_cases h : m.state = .halted
      · simp [h]
      · simp [h]

theorem status_eq_halted_iff : m.status = .halted ↔ m.error = none ∧ m.state = .halted := by
  rw [status]
  cases m.error with
  | some found => simp
  | none => simp

theorem status_eq_running_iff : m.status = .running ↔ m.error = none ∧ m.state ≠ .halted := by
  rw [status]
  cases m.error with
  | some found => simp
  | none => simp

/-- A running machine halts by its state alone. -/
theorem status_halted (h : m.status = .running) : { m with state := .halted }.status = .halted :=
  status_eq_halted_iff.mpr ⟨(status_eq_running_iff.mp h).1, rfl⟩

theorem answer_eq_error_iff {fault : Fault} :
    m.answer = .error fault ↔ m.status = .failed fault := by
  rw [status_eq_failed_iff, answer]
  cases m.error with
  | none => simp
  | some found => simp

theorem answer_of_failed {fault : Fault} (h : m.status = .failed fault) :
    m.answer = .error fault :=
  answer_eq_error_iff.mpr h

theorem answer_of_not_failed (h : ∀ fault, m.status ≠ .failed fault) : m.answer = .ok m.state := by
  rw [answer]
  cases he : m.error with
  | some fault => exact absurd (status_eq_failed_iff.mpr he) (h fault)
  | none => rfl

/-! ### What a call of `step` does -/

section Attempts

variable (m : Machine) (host : σ)

theorem error_divideBy (f : Int64 → Int64 → Int64) : (m.divideBy host f).2.1.error = m.error := by
  by_cases h : m.stack.top = 0
  · simp [divideBy, pop, Stack.pop, h]
  · simp [divideBy, pop, Stack.pop, push, h]

theorem error_accept (read : σ → Except InputFault Int64 × σ) :
    (m.accept host read).2.1.error = m.error := by
  rw [accept]
  rcases read host with ⟨found, after⟩
  cases found <;> rfl

theorem error_emit (write : Int64 → σ → Except DeviceFault Unit × σ) :
    (m.emit host write).2.1.error = m.error := by
  simp only [emit, pop, Stack.pop]
  rcases write m.stack.top host with ⟨found, after⟩
  cases found <;> rfl

theorem error_put : (m.put host).2.1.error = m.error := by
  simp only [put, pop, Stack.pop]
  split <;> rfl

theorem error_get : (m.get host).2.1.error = m.error := by
  simp only [get, pop, Stack.pop]
  split <;> rfl

theorem error_perform [Host σ] (i : Instruction) : (m.perform host i).2.1.error = m.error := by
  cases i
  case divide | modulo => exact m.error_divideBy host _
  case outputInteger | outputChar => exact m.error_emit host _
  case inputInteger | inputChar => exact m.error_accept host _
  case put => exact m.error_put host
  case get => exact m.error_get host
  all_goals rfl

/-- Executing a cell sets no fault; that is left to the step. -/
theorem error_execute [Host σ] (cell : Cell) : (m.execute host cell).2.1.error = m.error := by
  unfold execute
  split
  · rfl
  · cases cell with
    | instruction i => exact m.error_perform host i
    | _ => rfl

theorem goOn_eq :
    m.goOn host = ⟨.ok m.state, m.advance, host,
      if m.state = .halted then [.halted m.steps m.position] else []⟩ := by
  by_cases h : m.state = .halted
  · simp only [goOn, if_pos h]
    rfl
  · simp only [goOn, if_neg h]
    rfl

/-- A step on a machine without a fault answers what the machine says that it leaves. -/
theorem answer_conclude {attempt : Attempt σ} (h : attempt.2.1.error = none) :
    (conclude attempt).answer = (conclude attempt).machine.answer := by
  obtain ⟨found, after, left⟩ := attempt
  cases found with
  | error fault => rfl
  | ok _ =>
      have hnone : after.error = none := h
      rw [conclude, goOn_eq]
      change _ = after.answer
      rw [answer, hnone]

end Attempts

variable [Host σ]

/-- The attempt of a running machine to execute a cell leaves it without a fault, also if it
fails. -/
theorem error_attempt (h : m.status = .running) (host : σ) (cell : Cell) :
    (m.count.execute host cell).2.1.error = none :=
  (m.count.error_execute host cell).trans (status_eq_running_iff.mp h).1

/-- A machine that has ended does not change, calls no host and reports nothing. -/
theorem callStep_of_not_running (h : m.status ≠ .running) (host : σ) :
    m.callStep host = ⟨m.answer, m, host, []⟩ := by
  rw [callStep, answer]
  cases he : m.error with
  | some fault => rfl
  | none =>
      by_cases hs : m.state = .halted
      · simp only [hs, if_true]
      · exact absurd (status_eq_running_iff.mpr ⟨he, hs⟩) h

/-- A running machine that cannot fetch a cell fails where it is. -/
theorem callStep_of_fetch_error {cause : Cause} (h : m.status = .running)
    (hf : m.fetch = .error cause) (host : σ) :
    m.callStep host = m.fail host (cause.faultAt m.position) := by
  obtain ⟨he, hs⟩ := status_eq_running_iff.mp h
  rw [fetch] at hf
  simp only [callStep, he, if_neg hs]
  cases hx : m.exhausted? with
  | some limit =>
      rw [hx] at hf
      cases hf
      rfl
  | none =>
      rw [hx] at hf
      cases hr : m.playfield.read m.position with
      | ok cell =>
          rw [hr] at hf
          cases hf
      | error access =>
          rw [hr] at hf
          cases hf
          rfl

/-- A running machine that can fetch a cell executes it. -/
theorem callStep_of_fetch_ok {cell : Cell} (h : m.status = .running) (hf : m.fetch = .ok cell)
    (host : σ) : m.callStep host = m.stepOn host cell := by
  obtain ⟨he, hs⟩ := status_eq_running_iff.mp h
  rw [fetch] at hf
  simp only [callStep, he, if_neg hs]
  cases hx : m.exhausted? with
  | some limit =>
      rw [hx] at hf
      cases hf
  | none =>
      rw [hx] at hf
      cases hr : m.playfield.read m.position with
      | error access =>
          rw [hr] at hf
          cases hf
      | ok found =>
          rw [hr] at hf
          cases hf
          rfl

/-- A call of `step` has one of three forms. -/
theorem callStep_cases (m : Machine) (host : σ) :
    (m.status ≠ .running ∧ m.callStep host = ⟨m.answer, m, host, []⟩) ∨
    (m.status = .running ∧ ∃ cause, m.fetch = .error cause ∧
      m.callStep host = m.fail host (cause.faultAt m.position)) ∨
    (m.status = .running ∧ ∃ cell, m.fetch = .ok cell ∧ m.callStep host = m.stepOn host cell) := by
  by_cases h : m.status = .running
  · cases hf : m.fetch with
    | error cause => exact .inr (.inl ⟨h, cause, rfl, callStep_of_fetch_error h hf host⟩)
    | ok cell => exact .inr (.inr ⟨h, cell, rfl, callStep_of_fetch_ok h hf host⟩)
  · exact .inl ⟨h, callStep_of_not_running h host⟩

/-- A call of `step` answers what the machine says that it leaves. -/
theorem answer_callStep (m : Machine) (host : σ) :
    (m.callStep host).answer = (m.step host).1.answer := by
  change _ = (m.callStep host).machine.answer
  obtain ⟨-, h⟩ | ⟨-, cause, -, h⟩ | ⟨hrun, cell, -, h⟩ := m.callStep_cases host
  · rw [h]
  · rw [h]
    rfl
  · rw [h]
    exact answer_conclude (error_attempt hrun host cell)

theorem step_of_not_running (h : m.status ≠ .running) (host : σ) : m.step host = (m, host) := by
  rw [step, callStep_of_not_running h]

theorem step_of_fetch_error {cause : Cause} (h : m.status = .running)
    (hf : m.fetch = .error cause) (host : σ) : m.step host = (m.failHere cause, host) := by
  rw [step, callStep_of_fetch_error h hf]
  rfl

theorem stepN_of_not_running (h : m.status ≠ .running) (n : Nat) (host : σ) :
    stepN n m host = (m, host) := by
  induction n with
  | zero => rfl
  | succ n ih => rw [stepN_succ, step_of_not_running h, ih]

end Machine

end Funge
