import Funge.Proofs.Completion

/-!
# Step budgets

A budget says how many cells a machine may execute, and has no other part in a run. As long as the
count stays below it, the machine takes the steps it would take without one (`stepN_withBudget`).
The step after the last cell it allows fails, before anything is read or written, and leaves all but
the state as it is (`callStep_of_spent`). So a run under a budget is a run without one, cut off
after the cell that uses the budget up, wherever the instruction pointer then stands.
-/

namespace Funge.Machine

variable {σ : Type} [Host σ]

/-! ### Counting cells -/

/-- A running machine that does not come to fail in some steps executes a cell in the first. -/
theorem exists_due_of_stepN {n : Nat} {m : Machine} {host : σ} (hrun : m.status = .running)
    (h : ∀ fault, (stepN (n + 1) m host).1.status ≠ .failed fault) :
    ∃ cell, m.due? = some cell := by
  obtain ⟨hended, -, -⟩ | ⟨-, -, cause, -, hs⟩ | ⟨-, cell, hd, -, -⟩ := m.step_cases host
  · exact absurd hrun hended
  · refine absurd ?_ (h (cause.faultAt m.position))
    rw [stepN_succ, hs, stepN_of_not_running Status.noConfusion]
    rfl
  · exact ⟨cell, hd⟩

theorem step_steps_of_due {m : Machine} {cell : Cell} (h : m.due? = some cell) (host : σ) :
    (m.step host).1.steps = m.steps + 1 := by
  rw [step_steps, h]
  rfl

theorem le_steps_step (m : Machine) (host : σ) : m.steps ≤ (m.step host).1.steps := by
  rw [step_steps]
  exact Nat.le_add_right _ _

theorem steps_step_le (m : Machine) (host : σ) : (m.step host).1.steps ≤ m.steps + 1 := by
  have hone : m.due?.toList.length ≤ 1 := by cases m.due? <;> simp
  rw [step_steps]
  omega

theorem le_steps_stepN (n : Nat) (m : Machine) (host : σ) :
    m.steps ≤ (stepN n m host).1.steps := by
  induction n generalizing m host with
  | zero => exact Nat.le_refl _
  | succ n ih => exact Nat.le_trans (le_steps_step m host) (ih _ _)

theorem steps_stepN_le (n : Nat) (m : Machine) (host : σ) :
    (stepN n m host).1.steps ≤ m.steps + n := by
  induction n generalizing m host with
  | zero => exact Nat.le_refl _
  | succ n ih =>
      have hstep := steps_step_le m host
      have hrest := ih (m.step host).1 (m.step host).2
      rw [stepN_succ]
      omega

/-- A machine that still runs after some steps was running all along. -/
theorem running_of_stepN_add {j k : Nat} {m : Machine} {host : σ}
    (h : (stepN (j + k) m host).1.status = .running) : (stepN j m host).1.status = .running := by
  refine Decidable.byContradiction fun hended => ?_
  rw [stepN_add, stepN_of_not_running hended] at h
  exact hended h

/-- While a machine runs, every step executes a cell. -/
theorem steps_stepN_of_running {n : Nat} {m : Machine} {host : σ}
    (h : (stepN n m host).1.status = .running) : (stepN n m host).1.steps = m.steps + n := by
  induction n generalizing m host with
  | zero => rfl
  | succ n ih =>
      have hrun : m.status = .running :=
        running_of_stepN_add (j := 0) (k := n + 1) (by rwa [Nat.zero_add])
      obtain ⟨cell, hd⟩ := exists_due_of_stepN hrun fun fault hf => nomatch h.symm.trans hf
      rw [stepN_succ] at h ⊢
      rw [ih h, step_steps_of_due hd]
      omega

/-- A machine halts by executing a cell. -/
theorem steps_lt_of_halted {n : Nat} {m : Machine} {host : σ} (hrun : m.status = .running)
    (h : (stepN n m host).1.status = .halted) : m.steps < (stepN n m host).1.steps := by
  cases n with
  | zero => cases hrun.symm.trans h
  | succ n =>
      obtain ⟨cell, hd⟩ := exists_due_of_stepN hrun fun fault hf => nomatch h.symm.trans hf
      have hstep := step_steps_of_due hd host
      have hrest := le_steps_stepN n (m.step host).1 (m.step host).2
      rw [stepN_succ]
      omega

/-- A machine has halted after a number of steps exactly when it halts within that many cells. -/
theorem halted_stepN_iff {n : Nat} {m : Machine} {host : σ} :
    (stepN n m host).1.status = .halted ↔
      ∃ k, (stepN k m host).1.status = .halted ∧ (stepN k m host).1.steps ≤ m.steps + n := by
  constructor
  · intro h
    exact ⟨n, h, steps_stepN_le n m host⟩
  · rintro ⟨k, hhalted, hcount⟩
    rcases Nat.le_total k n with hk | hk
    · obtain ⟨d, rfl⟩ := Nat.exists_eq_add_of_le hk
      rw [stepN_add, stepN_of_not_running (by simp [hhalted])]
      exact hhalted
    · obtain ⟨d, rfl⟩ := Nat.exists_eq_add_of_le hk
      rw [stepN_add] at hhalted hcount
      by_cases hrun : (stepN n m host).1.status = .running
      · -- It would have to execute one more cell to halt.
        have hlater := steps_lt_of_halted hrun hhalted
        have hnow := steps_stepN_of_running hrun
        omega
      · rwa [stepN_of_not_running hrun] at hhalted

/-! ### The same machine under another budget -/

/-- The machine with another budget. -/
def withBudget (m : Machine) (budget : Option UInt64) : Machine := { m with budget := budget }

/-- The machine when its budget is used up: it fails where it stands, unless it has ended before. -/
def cutOff (m : Machine) (limit : UInt64) : Machine :=
  match m.status with
  | .running => (m.withBudget (some limit)).failHere (.stepLimit limit)
  | .halted | .failed _ => m.withBudget (some limit)

@[simp] theorem status_withBudget (m : Machine) (budget : Option UInt64) :
    (m.withBudget budget).status = m.status := rfl

@[simp] theorem answer_withBudget (m : Machine) (budget : Option UInt64) :
    (m.withBudget budget).answer = m.answer := rfl

@[simp] theorem effect_withBudget (m : Machine) (budget : Option UInt64) (cell : Cell) :
    (m.withBudget budget).effect cell = m.effect cell := rfl

theorem begin_withBudget (m : Machine) (budget : Option UInt64) (cell : Cell) :
    (m.withBudget budget).begin cell = (m.begin cell).withBudget budget := rfl

theorem settle_withBudget (m : Machine) (budget : Option UInt64) :
    (m.withBudget budget).settle = m.settle.withBudget budget := rfl

theorem cutOff_of_running {m : Machine} (h : m.status = .running) (limit : UInt64) :
    m.cutOff limit = (m.withBudget (some limit)).failHere (.stepLimit limit) := by
  simp only [cutOff, h]

theorem cutOff_of_not_running {m : Machine} (h : m.status ≠ .running) (limit : UInt64) :
    m.cutOff limit = m.withBudget (some limit) := by
  rw [cutOff]
  cases hs : m.status with
  | running => exact absurd hs h
  | halted => rfl
  | failed fault => rfl

theorem cutOff_withBudget (m : Machine) (budget : Option UInt64) (limit : UInt64) :
    (m.withBudget budget).cutOff limit = m.cutOff limit := rfl

/-- No effect asks for the budget. -/
theorem apply_withBudget (m : Machine) (budget : Option UInt64) (host : σ) (e : Effect) :
    (m.withBudget budget).apply host e =
      ((m.apply host e).1.withBudget budget, (m.apply host e).2) := by
  cases e with
  | store p v =>
      simp only [apply, store, withBudget]
      cases m.playfield.write p (Cell.ofValue v) <;> rfl
  | load p =>
      simp only [apply, load, withBudget]
      cases m.playfield.read p <;> rfl
  | input format =>
      simp only [apply, receive_eq]
      cases (format.read host).1 <;> rfl
  | output format v =>
      simp only [apply, deliver_eq]
      cases (format.write v host).1 <;> rfl
  | _ => rfl

/-- A budget that is not used up is not noticed. -/
theorem fetch_withBudget {m : Machine} {limit : UInt64} (hb : m.budget = none)
    (h : m.steps < limit.toNat) : (m.withBudget (some limit)).fetch = m.fetch := by
  have hfree : m.exhausted? = none := by
    rw [exhausted?, hb]
    rfl
  have hleft : (m.withBudget (some limit)).exhausted? = none := by
    refine Option.eq_none_iff_forall_ne_some.mpr fun found hfound => ?_
    obtain ⟨hlimit, hle⟩ := exhausted?_eq_some_iff.mp hfound
    obtain rfl := Option.some.inj hlimit
    exact absurd hle (Nat.not_le_of_lt h)
  simp only [fetch, hfree, hleft]
  rfl

section Fetch

variable {m : Machine} {budget : Option UInt64}

theorem hostCall?_withBudget (h : m.status = .running → (m.withBudget budget).fetch = m.fetch) :
    (m.withBudget budget).hostCall? = m.hostCall? := by
  rw [hostCall?, due?_congr (status_withBudget m budget) h]
  rfl

/-- A machine that fetches the same under another budget takes the same step. -/
theorem step_withBudget (h : m.status = .running → (m.withBudget budget).fetch = m.fetch)
    (host : σ) :
    (m.withBudget budget).step host =
      ((m.step host).1.withBudget budget, (m.step host).2) := by
  obtain ⟨hrun, -, hs⟩ | ⟨hrun, -, cause, hf, hs⟩ | ⟨hrun, cell, -, hf, hs⟩ := m.step_cases host
  · rw [hs, step_of_not_running (m := m.withBudget budget) hrun]
  · rw [hs, step_of_fetch_error (m := m.withBudget budget) hrun ((h hrun).trans hf)]
    rfl
  · rw [hs, step_of_fetch_ok (m := m.withBudget budget) hrun ((h hrun).trans hf),
      effect_withBudget, begin_withBudget, apply_withBudget, settle_withBudget]

end Fetch

/-! ### Runs under a budget -/

/-- Two machines take the same steps, one by one: they give the same answers, make the same host
calls and become the same machine, which only keeps its own budget. -/
structure SameButBudget (n : Nat) (m m' : Machine) (host : σ) : Prop where
  sameAnswers : answers n m' host = answers n m host
  sameCalls : hostCalls n m' host = hostCalls n m host
  sameAfter : stepN n m' host = ((stepN n m host).1.withBudget m'.budget, (stepN n m host).2)

/-- Machines that take the same steps as a third one take the same steps. -/
theorem SameButBudget.of_same {n : Nat} {m m₁ m₂ : Machine} {host : σ}
    (h₁ : SameButBudget n m m₁ host) (h₂ : SameButBudget n m m₂ host) :
    SameButBudget n m₁ m₂ host where
  sameAnswers := h₂.sameAnswers.trans h₁.sameAnswers.symm
  sameCalls := h₂.sameCalls.trans h₁.sameCalls.symm
  sameAfter := by
    rw [h₂.sameAfter, h₁.sameAfter]
    rfl

/-- As long as a machine without a budget runs with fewer cells than some limit, it takes the same
steps under a budget of that limit. -/
theorem stepN_withBudget {n : Nat} {m : Machine} {limit : UInt64} {host : σ} (hb : m.budget = none)
    (hroom : ∀ k < n, (stepN k m host).1.status = .running →
      (stepN k m host).1.steps < limit.toNat) :
    SameButBudget n m (m.withBudget (some limit)) host := by
  induction n generalizing m host with
  | zero => exact ⟨rfl, rfl, rfl⟩
  | succ n ih =>
      have hfetch : m.status = .running → (m.withBudget (some limit)).fetch = m.fetch :=
        fun hrun => fetch_withBudget hb (hroom 0 (Nat.succ_pos n) hrun)
      have hstep := step_withBudget hfetch host
      obtain ⟨hanswers, hcalls, hrun⟩ : SameButBudget n (m.step host).1
          ((m.step host).1.withBudget (some limit)) (m.step host).2 :=
        ih ((step_budget m host).trans hb) fun k hk => hroom (k + 1) (Nat.succ_lt_succ hk)
      refine ⟨?_, ?_, ?_⟩
      · rw [answers_succ, answers_succ, hstep, hanswers, answer_withBudget]
      · rw [hostCalls, hostCalls, hostCall?_withBudget hfetch, hstep, hcalls]
      · rw [stepN_succ, stepN_succ, hstep, hrun]
        rfl

/-- The call of `step` after the last cell that the budget allows fails, if the machine has not
ended. -/
theorem callStep_of_spent {m : Machine} {limit : UInt64} (hrun : m.status = .running)
    (hsteps : m.steps = limit.toNat) (host : σ) :
    (m.withBudget (some limit)).callStep host =
      (m.withBudget (some limit)).fail host ((Cause.stepLimit limit).faultAt m.position) := by
  have hspent : (m.withBudget (some limit)).exhausted? = some limit :=
    exhausted?_eq_some_iff.mpr ⟨rfl, Nat.le_of_eq hsteps.symm⟩
  have hstatus : (m.withBudget (some limit)).status = .running := hrun
  exact callStep_of_fetch_error hstatus (fetch_of_exhausted hspent) host

theorem step_of_spent {m : Machine} {limit : UInt64} (hsteps : m.status = .running →
    m.steps = limit.toNat) (host : σ) :
    (m.withBudget (some limit)).step host = (m.cutOff limit, host) := by
  by_cases hrun : m.status = .running
  · rw [step, callStep_of_spent hrun (hsteps hrun), cutOff_of_running hrun]
    rfl
  · rw [step_of_not_running (m := m.withBudget (some limit)) hrun, cutOff_of_not_running hrun]

theorem status_cutOff_eq_halted_iff {m : Machine} {limit : UInt64} :
    (m.cutOff limit).status = .halted ↔ m.status = .halted := by
  by_cases hrun : m.status = .running
  · rw [cutOff_of_running hrun, hrun]
    exact iff_of_false Status.noConfusion Status.noConfusion
  · rw [cutOff_of_not_running hrun, status_withBudget]

theorem cutOff_status_ne_running (m : Machine) (limit : UInt64) :
    (m.cutOff limit).status ≠ .running := by
  by_cases hrun : m.status = .running
  · rw [cutOff_of_running hrun]
    exact fun h => nomatch h
  · rw [cutOff_of_not_running hrun]
    exact hrun

section Start

variable {f : Playfield} {seed limit : UInt64} {host : σ}

theorem steps_start_of_running {n : Nat} {budget : Option UInt64}
    (h : (stepN n (start f seed budget) host).1.status = .running) :
    (stepN n (start f seed budget) host).1.steps = n := by
  rw [steps_stepN_of_running h]
  exact Nat.zero_add n

theorem sameButBudget_start {n : Nat} (h : n ≤ limit.toNat) :
    SameButBudget n (start f seed none) (start f seed (some limit)) host := by
  refine stepN_withBudget (m := start f seed none) rfl fun k hk hrun => ?_
  rw [steps_start_of_running hrun]
  omega

/-- A machine that ends within its budget does not notice it at all. -/
theorem sameButBudget_of_ended
    (h : (stepN limit.toNat (start f seed none) host).1.status ≠ .running) (n : Nat) :
    SameButBudget n (start f seed none) (start f seed (some limit)) host := by
  refine stepN_withBudget (m := start f seed none) rfl fun k hk hrun => ?_
  rw [steps_start_of_running hrun]
  refine Nat.lt_of_not_le fun hle => h ?_
  obtain ⟨d, rfl⟩ := Nat.exists_eq_add_of_le hle
  exact running_of_stepN_add hrun

/-- One call after the last cell that a budget allows, the machine has ended. -/
theorem stepN_start_eq_cutOff :
    stepN (limit.toNat + 1) (start f seed (some limit)) host =
      ((stepN limit.toNat (start f seed none) host).1.cutOff limit,
        (stepN limit.toNat (start f seed none) host).2) := by
  have hsame : SameButBudget limit.toNat (start f seed none) (start f seed (some limit)) host :=
    sameButBudget_start (Nat.le_refl limit.toNat)
  rw [stepN_add, hsame.sameAfter]
  refine step_of_spent (fun hrun => ?_) _
  exact steps_start_of_running hrun

theorem callRun_start_eq_cutOff :
    callRun (limit.toNat + 1) (start f seed (some limit)) host =
      some ⟨((stepN limit.toNat (start f seed none) host).1.cutOff limit).ending,
        (stepN limit.toNat (start f seed none) host).1.cutOff limit,
        (stepN limit.toNat (start f seed none) host).2,
        eventsN (limit.toNat + 1) (start f seed (some limit)) host⟩ := by
  rw [callRun_of_ended (.start f seed _), stepN_start_eq_cutOff]
  rw [stepN_start_eq_cutOff]
  exact cutOff_status_ne_running _ _

end Start

/-- A budget cuts a run off after exactly as many cells as it says, and changes nothing else. Up to
that moment the machine goes through the steps of the machine without a budget. If that one then
still runs, the next call fails where it stands, also outside the playfield, and leaves everything
else as it was; if it has ended, the machine has ended in the same way. So a run ends within one call
more than the budget says, it answers without a fault exactly if the program halts within that many
cells, and under a smaller budget it is the beginning of the same run. -/
theorem budget_cuts_run (f : Playfield) (seed limit : UInt64) (host : σ) :
    let free := start f seed none
    let bound := start f seed (some limit)
    let n := limit.toNat
    (∀ j ≤ n, SameButBudget j free bound host) ∧
    ((stepN n free host).1.state = .running →
      (stepN n free host).1.steps = n ∧
      (stepN n bound host).1.callStep (stepN n bound host).2 =
        ((stepN n free host).1.withBudget (some limit)).fail (stepN n free host).2
          ((Cause.stepLimit limit).faultAt (stepN n free host).1.position) ∧
      stepN (n + 1) bound host =
        (((stepN n free host).1.withBudget (some limit)).failHere (.stepLimit limit),
          (stepN n free host).2)) ∧
    ((stepN n free host).1.state ≠ .running → ∀ j, SameButBudget j free bound host) ∧
    (∃ call, callRun (n + 1) bound host = some call ∧
      (call.machine, call.host) = ((stepN n free host).1.cutOff limit, (stepN n free host).2) ∧
      (∀ fault, call.answer = .error fault ↔ call.machine.error = some fault) ∧
      (call.answer = .ok () ↔ call.machine.state = .halted) ∧
      (call.answer = .ok () ↔
        ∃ k, (stepN k free host).1.state = .halted ∧ (stepN k free host).1.steps ≤ n)) ∧
    ∀ smaller ≤ limit,
      (∀ j ≤ smaller.toNat, SameButBudget j bound (start f seed (some smaller)) host) ∧
      ∃ call, callRun (smaller.toNat + 1) (start f seed (some smaller)) host = some call ∧
        (call.machine, call.host) =
          ((stepN smaller.toNat bound host).1.cutOff smaller, (stepN smaller.toNat bound host).2) ∧
        call.answer = call.machine.ending := by
  intro free bound n
  have hsame : ∀ j ≤ n, SameButBudget j free bound host := fun j hj => sameButBudget_start hj
  have hfree (k : Nat) : (stepN k free host).1.Coherent :=
    (Coherent.start f seed none).stepN k host
  refine ⟨hsame, ?_, ?_, ?_, ?_⟩
  · intro hstate
    have hrun : (stepN n free host).1.status = .running :=
      (hfree n).status_eq_running_iff.mpr hstate
    have hsteps : (stepN n free host).1.steps = n := steps_start_of_running hrun
    refine ⟨hsteps, ?_, ?_⟩
    · rw [(hsame n (Nat.le_refl n)).sameAfter]
      exact callStep_of_spent hrun hsteps _
    · rw [← cutOff_of_running hrun]
      exact stepN_start_eq_cutOff
  · intro hstate
    exact sameButBudget_of_ended (mt (hfree n).status_eq_running_iff.mp hstate)
  · have hbound : bound.Coherent := .start f seed (some limit)
    have hcall : callRun (n + 1) bound host = some _ := callRun_start_eq_cutOff
    have hcompletes := completes_iff_callRun.mpr ⟨n + 1, hcall⟩
    have hended : ((stepN n free host).1.cutOff limit).status ≠ .running :=
      cutOff_status_ne_running _ _
    have hzero : free.steps + n = n := Nat.zero_add n
    refine ⟨_, hcall, rfl, fun _ => hcompletes.answer_eq_error_iff hbound,
      hcompletes.answer_eq_ok_iff hbound, ?_⟩
    simp only [← (hfree _).status_eq_halted_iff]
    rw [ending_eq_ok_iff hended, status_cutOff_eq_halted_iff, halted_stepN_iff, hzero]
  · intro smaller hle
    refine ⟨?_, ?_⟩
    · intro j hj
      exact (hsame j (Nat.le_trans hj hle)).of_same (sameButBudget_start hj)
    · refine ⟨_, callRun_start_eq_cutOff, ?_, rfl⟩
      rw [(hsame smaller.toNat hle).sameAfter, cutOff_withBudget]

/-- A budget that is used up where the instruction pointer has left the playfield is what ends the
run, although there is no cell to execute there. -/
example :
    let f : Playfield := ⟨1, 2, #[.digit 1, .instruction .bridge], by decide, by decide, rfl⟩
    (callRun 3 (start f 0 (some 2)) (Console.ofInput [] {})).map (·.answer) =
      some (.error ((Cause.stepLimit 2).faultAt ⟨0, 3⟩)) := by
  decide

end Funge.Machine
