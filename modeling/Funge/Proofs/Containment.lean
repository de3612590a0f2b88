import Funge.Proofs.Memory
import Funge.Proofs.Observation

/-!
# What a failing step leaves behind

A step can fail at seven places: before it executes a cell, when the budget is used up or the pointer
is off the playfield, and at an instruction that has been counted and has taken its operands.
`exit_of_failed` tells these apart. Either way the machine is the one it was, with no more than the
operands gone (`Contained`); nothing is undone, because nothing but the stack and the count has
changed by then. The host has been called at most once, as a host that keeps a record shows.
-/

namespace Funge

/-! ### Operands -/

theorem Stack.values_drop (s : Stack) (n : Nat) : (s.drop n).values = s.values.drop n := by
  induction n generalizing s with
  | zero => rfl
  | succ n ih =>
      rw [drop_succ, ih, ← List.drop_tail]
      rfl

/-- No instruction can fail for causes of two kinds. -/
theorem FaultKind.mem_culprits_iff {kind kind' : FaultKind} {i : Instruction}
    (h : i ∈ kind.culprits) : i ∈ kind'.culprits ↔ kind = kind' := by
  constructor
  · revert i
    cases kind <;> cases kind' <;> decide
  · rintro rfl
    exact h

/-- The instructions that call the host are those that the host can fail. -/
theorem Instruction.hostCall?_ne_none_iff {i : Instruction} {operand : Nat → Int64}
    {drawn : Direction × Generator} :
    (i.effect operand drawn).hostCall? ≠ none ↔
      i ∈ FaultKind.input.culprits ∨ i ∈ FaultKind.output.culprits := by
  cases i
  case divide | modulo =>
    by_cases hz : operand 0 = 0
    all_goals simp [effect, hz, Effect.hostCall?, FaultKind.culprits]
  all_goals simp [effect, Effect.hostCall?, FaultKind.culprits]

/-! ### The failing step -/

namespace Machine

variable {σ : Type} [Host σ] {m : Machine} {host : σ} {fault : Fault}

/-- A step fails before a cell is counted, or at an instruction that has taken its operands and that
can fail for this kind of cause. -/
theorem exit_of_failed (hrun : m.status = .running) (hf : (m.step host).1.status = .failed fault) :
    (∃ cause, fault = cause.faultAt m.position ∧ m.due? = none ∧ m.fetch = .error cause ∧
      (m.step host).1 = m.failHere cause) ∨
    ∃ i ∈ fault.kind.culprits, m.CarriesOut i ∧
      (m.step host).1 = (m.begin (.instruction i)).failHere fault.cause := by
  obtain ⟨hended, -, -⟩ | ⟨-, hdue, cause, hfetch, hs⟩ | ⟨-, cell, hdue, -, hs⟩ :=
    m.step_cases host
  · exact absurd hrun hended
  · rw [hs] at hf ⊢
    exact .inl ⟨cause, (Status.failed.inj hf).symm, hdue, hfetch, rfl⟩
  · rw [hs] at hf ⊢
    obtain ⟨-, hmode, i, hmem, rfl, hsettle⟩ := exists_culprit_of_failed hrun hf
    exact .inr ⟨i, hmem, ⟨hmode, hdue⟩, hsettle⟩

/-- A load or a store that fails addresses a position off the playfield. -/
theorem not_contains_addressed {i : Instruction} (hi : i ∈ FaultKind.outOfBounds.culprits)
    (hcarries : m.CarriesOut i) (hf : (m.step host).1.status = .failed fault) :
    ¬ m.playfield.Contains m.addressed := by
  intro hinside
  have hrun : m.status = .running := (fetch_of_due hcarries.2).1
  rw [step_of_carriesOut hcarries, status_settle] at hf
  rcases List.mem_cons.mp hi with rfl | hi
  · obtain ⟨g, hw⟩ := Playfield.exists_write hinside (Cell.ofValue (m.stack.peek 2))
    change ((m.begin (.instruction .put)).store m.addressed (m.stack.peek 2)).status = _ at hf
    have hwrite : (m.begin (.instruction .put)).playfield.write m.addressed
        (Cell.ofValue (m.stack.peek 2)) = .ok g := hw
    rw [store, hwrite] at hf
    cases hrun.symm.trans hf
  · obtain rfl := List.mem_singleton.mp hi
    obtain ⟨cell, hr⟩ := Playfield.exists_read hinside
    change ((m.begin (.instruction .get)).load m.addressed).status = _ at hf
    have hread : (m.begin (.instruction .get)).playfield.read m.addressed = .ok cell := hr
    rw [load, hread] at hf
    cases hrun.symm.trans hf

/-- What a machine is after it failed, and the host calls that were made: everything is as before but
the count, which has the cell that failed, and the stack, which lacks the operands of that cell as
far as there were any. -/
structure Contained (m after : Machine) (fault : Fault) (calls : List HostCall) : Prop where
  playfield : after.playfield = m.playfield
  position : after.position = m.position
  direction : after.direction = m.direction
  stringMode : after.stringMode = m.stringMode
  generator : after.generator = m.generator
  steps : after.steps =
    m.steps + if fault.kind ≠ .stepLimit ∧ m.playfield.Contains m.position then 1 else 0
  calls_le : calls.length ≤ 1
  called_iff : calls ≠ [] ↔ fault.kind = .input ∨ fault.kind = .output
  divisionByZero : fault.kind = .divisionByZero → after.stack.values = m.stack.values.drop 2
  output : fault.kind = .output → after.stack.values = m.stack.values.drop 1
  input : fault.kind = .input → after.stack.values = m.stack.values
  outOfBounds : fault.kind = .outOfBounds →
    (¬ m.playfield.Contains m.position ∧ after.stack.values = m.stack.values) ∨
    (m.CarriesOut .put ∧ ¬ m.playfield.Contains m.addressed ∧
      after.stack.values = m.stack.values.drop 3) ∨
    (m.CarriesOut .get ∧ ¬ m.playfield.Contains m.addressed ∧
      after.stack.values = m.stack.values.drop 2)
  stepLimit : fault.kind = .stepLimit → after.stack.values = m.stack.values

theorem kind_of_fetch_error {cause : Cause} (h : m.fetch = .error cause) :
    cause.kind = .stepLimit ∨
      (cause.kind = .outOfBounds ∧ ¬ m.playfield.Contains m.position) := by
  obtain ⟨limit, -, rfl⟩ | ⟨-, access, hread, rfl⟩ := cause_of_fetch_error h
  · exact .inl rfl
  · exact .inr ⟨rfl, Playfield.not_contains_of_read_error hread⟩

/-- A fetch that fails takes nothing and calls nobody. -/
theorem contained_of_fetch_error {cause : Cause} (hfetch : m.fetch = .error cause) :
    Contained m (m.failHere cause) (cause.faultAt m.position) [] where
  playfield := rfl
  position := rfl
  direction := rfl
  stringMode := rfl
  generator := rfl
  steps := by
    have hcount : ¬ (cause.kind ≠ .stepLimit ∧ m.playfield.Contains m.position) := by
      rintro ⟨hkind, hinside⟩
      exact (kind_of_fetch_error hfetch).elim hkind fun hout => hout.2 hinside
    rw [Cause.kind_faultAt, if_neg hcount]
    rfl
  calls_le := Nat.zero_le 1
  called_iff := by
    obtain h | ⟨h, -⟩ := kind_of_fetch_error hfetch
    all_goals simp [h]
  divisionByZero hkind := by
    obtain h | ⟨h, -⟩ := kind_of_fetch_error hfetch
    all_goals cases hkind.symm.trans h
  output hkind := by
    obtain h | ⟨h, -⟩ := kind_of_fetch_error hfetch
    all_goals cases hkind.symm.trans h
  input _ := rfl
  outOfBounds hkind := by
    obtain h | ⟨-, hout⟩ := kind_of_fetch_error hfetch
    · cases hkind.symm.trans h
    · exact .inl ⟨hout, rfl⟩
  stepLimit _ := rfl

theorem hostCall?_of_carriesOut {i : Instruction} (h : m.CarriesOut i) :
    m.hostCall? = (i.effect m.stack.peek m.generator.next).hostCall? := by
  rw [hostCall?, h.2, Option.bind_some, effect_of_carriesOut h]

/-- An instruction that fails has taken its operands, and no other values. -/
theorem values_fail_begin {i : Instruction} (h : m.CarriesOut i) (cause : Cause) :
    ((m.begin (.instruction i)).failHere cause).stack.values = m.stack.values.drop i.arity := by
  rw [begin_of_carriesOut h]
  exact m.stack.values_drop i.arity

/-- An instruction that fails has called the host if that is what failed. -/
theorem contained_of_carriesOut {i : Instruction} (hi : i ∈ fault.kind.culprits)
    (hcarries : m.CarriesOut i) (hf : (m.step host).1.status = .failed fault) :
    Contained m ((m.begin (.instruction i)).failHere fault.cause) fault m.hostCall?.toList where
  playfield := rfl
  position := rfl
  direction := rfl
  stringMode := rfl
  generator := rfl
  steps := by
    have hkind : fault.kind ≠ .stepLimit := by
      intro h
      rw [h] at hi
      cases hi
    have hinside : m.playfield.Contains m.position :=
      Playfield.contains_of_read (read_of_fetch_ok (fetch_of_due hcarries.2).2).2
    rw [if_pos ⟨hkind, hinside⟩]
    rfl
  calls_le := by
    cases m.hostCall? <;> simp
  called_iff := by
    rw [Ne, Option.toList_eq_nil_iff, hostCall?_of_carriesOut hcarries, ← Ne,
      Instruction.hostCall?_ne_none_iff, FaultKind.mem_culprits_iff hi,
      FaultKind.mem_culprits_iff hi]
  divisionByZero hkind := by
    have harity : ∀ j ∈ FaultKind.divisionByZero.culprits, j.arity = 2 := by decide
    rw [values_fail_begin hcarries, harity i (hkind ▸ hi)]
  output hkind := by
    have harity : ∀ j ∈ FaultKind.output.culprits, j.arity = 1 := by decide
    rw [values_fail_begin hcarries, harity i (hkind ▸ hi)]
  input hkind := by
    have harity : ∀ j ∈ FaultKind.input.culprits, j.arity = 0 := by decide
    rw [values_fail_begin hcarries, harity i (hkind ▸ hi), List.drop_zero]
  outOfBounds hkind := by
    rw [hkind] at hi
    have hout := not_contains_addressed hi hcarries hf
    rcases List.mem_cons.mp hi with rfl | hget
    · exact .inr (.inl ⟨hcarries, hout, values_fail_begin hcarries _⟩)
    · obtain rfl := List.mem_singleton.mp hget
      exact .inr (.inr ⟨hcarries, hout, values_fail_begin hcarries _⟩)
  stepLimit hkind := by
    rw [hkind] at hi
    cases hi

/-- A failing step is contained, on every playfield and with every host. Playfield, position,
direction, string mode and random stream are as they were before it. The count has grown by the cell
that failed, if a cell was fetched at all. The host was called once if it is to blame, and else not;
a host that keeps a record shows it. Of the stack only the operands of the failing instruction are
gone, as many of them as there were, and nothing was pushed. -/
theorem failing_step_contained (hrun : m.status = .running)
    (hf : (m.callStep host).answer = .error fault) :
    ∃ calls, m.step (Recorded.mk host []) = ((m.step host).1, ⟨(m.step host).2, calls⟩) ∧
      Contained m (m.step host).1 fault calls := by
  rw [answer_callStep, answer_eq_error_iff] at hf
  refine ⟨m.hostCall?.toList, Recorded.step_eq m ⟨host, []⟩, ?_⟩
  obtain ⟨cause, rfl, hdue, hfetch, hafter⟩ | ⟨i, hi, hcarries, hafter⟩ := exit_of_failed hrun hf
  · have hcall : m.hostCall? = none := by rw [hostCall?, hdue, Option.bind_none]
    rw [hafter, hcall]
    exact contained_of_fetch_error hfetch
  · rw [hafter]
    exact contained_of_carriesOut hi hcarries hf

/-- A store far outside takes its three operands and leaves the value below them alone. -/
theorem failing_step_contained_of_store :
    let f : Playfield := ⟨1, 5, #[.digit 1, .digit 2, .digit 3, .digit 4, .instruction .put],
      by decide, by decide, rfl⟩
    let console := Console.ofInput [] {}
    let m := (stepN 4 (start f 0 none) console).1
    let fault : Fault := (Cause.outOfBounds ⟨⟨3, 4⟩, 1, 5⟩).faultAt ⟨0, 4⟩
    m.status = .running ∧ (m.callStep console).answer = .error fault ∧
      m.stack.values = [4, 3, 2, 1] ∧ (m.step console).1.stack.values = [1] ∧
      (m.step console).1.steps = 5 := by
  intro f console m fault
  have hrun : m.status = .running := by decide
  have hf : (m.callStep console).answer = .error fault := by decide
  have hinside : m.playfield.Contains m.position := by decide
  have hoperands : m.stack.values = [4, 3, 2, 1] := by decide
  have hnoGet : ¬ m.CarriesOut .get := by decide
  obtain ⟨calls, -, hcontained⟩ := failing_step_contained hrun hf
  refine ⟨hrun, hf, hoperands, ?_, ?_⟩
  · obtain ⟨hout, -⟩ | ⟨-, -, hvalues⟩ | ⟨hget, -⟩ := hcontained.outOfBounds rfl
    · exact absurd hinside hout
    · rw [hvalues, hoperands]
      rfl
    · exact absurd hget hnoGet
  · have hcount : m.steps = 4 := by decide
    rw [hcontained.steps, if_pos ⟨by decide, hinside⟩, hcount]

end Machine

end Funge
