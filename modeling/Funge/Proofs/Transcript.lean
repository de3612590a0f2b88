import Funge.Log
import Funge.Proofs.Budget
import Funge.Proofs.Ending

/-!
# The log of a run

A step reports from three places: the cell right before it executes it, a halt before the pointer
moves on, and a failure when it is stored. `conclusion` reads off a machine what was reported of the
end of its run, and `events_callStep` says that the events of a step are that of its cell and the
conclusion of the machine that it leaves: the report of a halt is from the place that is then one
cell behind. So what calls of `step` and `run` have reported falls into two parts (`eventsN_eq`).
There is one event for each cell that was executed, in the order in which they were (`executions`),
and at most one event more, which a machine has reported exactly if it has ended.
-/

namespace Funge.Machine

variable {σ : Type} [Host σ]

/-! ### The two parts of a log -/

/-- What a machine reports of the cell it executes next, if it executes one. -/
def report? (m : Machine) : Option Event :=
  m.due?.map fun cell => .executing m.position cell m.direction m.stack.depth

/-- What is reported of the cells that a number of steps execute. -/
def executions : Nat → Machine → σ → List Event
  | 0, _, _ => []
  | n + 1, m, host => m.report?.toList ++ executions n (m.step host).1 (m.step host).2

/-- What is reported of the end of a run, once it has ended. -/
def conclusion (m : Machine) : List Event :=
  match m.status with
  | .running => []
  | .halted => [.halted m.steps m.behind]
  | .failed fault => [.failed fault]

variable {m : Machine} {host : σ}

theorem conclusion_of_running (h : m.status = .running) : m.conclusion = [] := by
  simp only [conclusion, h]

theorem conclusion_of_halted (h : m.status = .halted) :
    m.conclusion = [.halted m.steps m.behind] := by
  simp only [conclusion, h]

theorem conclusion_of_failed {fault : Fault} (h : m.status = .failed fault) :
    m.conclusion = [.failed fault] := by
  simp only [conclusion, h]

omit [Host σ] in
/-- The end of a step reports a fault when it is stored, and a halt before the pointer moves on. -/
theorem events_conclude {attempt : Attempt σ} (h : attempt.2.1.error = none) :
    (conclude attempt).events = (conclude attempt).machine.conclusion := by
  obtain ⟨answer, after, left⟩ := attempt
  cases answer with
  | error fault => rfl
  | ok _ =>
      have herror : after.advance.error = none := h
      rw [conclude, goOn_eq]
      change (if after.state = .halted then _ else _) = after.advance.conclusion
      by_cases hs : after.state = .halted
      · have hbehind : after.advance.behind = after.position :=
          after.position.next_next_opposite after.direction
        rw [if_pos hs, conclusion_of_halted (status_eq_halted_iff.mpr ⟨herror, hs⟩), hbehind]
        rfl
      · rw [if_neg hs, conclusion_of_running (status_eq_running_iff.mpr ⟨herror, hs⟩)]

/-- What a step of a running machine reports: the cell, if it executes one, and the end of the run,
if it ends it. -/
theorem events_callStep (hrun : m.status = .running) (host : σ) :
    (m.callStep host).events = m.report?.toList ++ (m.step host).1.conclusion := by
  change _ = _ ++ (m.callStep host).machine.conclusion
  rw [report?, due?_of_running hrun]
  obtain ⟨hended, -⟩ | ⟨-, cause, hf, hs⟩ | ⟨-, cell, hf, hs⟩ := m.callStep_cases host
  · exact absurd hrun hended
  · rw [hs, hf]
    rfl
  · have hconclude := events_conclude (error_attempt hrun host cell)
    rw [hs, hf]
    exact congrArg (List.cons (.executing m.position cell m.direction m.stack.depth)) hconclude

/-- A machine halts by executing a halt instruction, and goes one cell past it. -/
theorem due_of_step_halted (hrun : m.status = .running) (h : (m.step host).1.status = .halted) :
    m.due? = some (.instruction .halt) ∧ (m.step host).1.behind = m.position := by
  obtain ⟨hended, -, -⟩ | ⟨-, -, cause, -, hs⟩ | ⟨-, cell, hdue, -, hs⟩ := m.step_cases host
  · exact absurd hrun hended
  · rw [hs] at h
    cases h
  · rw [hs] at h ⊢
    have he : m.effect cell = .halt :=
      eq_halt_of_apply_halted (m := m.begin cell) hrun h
    obtain ⟨-, rfl⟩ := Cell.eq_halt_of_effect he
    rw [he, apply, settle_halted (m := m.begin (.instruction .halt)) hrun]
    exact ⟨hdue, m.position.next_next_opposite m.direction⟩

theorem executions_of_not_running (h : m.status ≠ .running) (n : Nat) (host : σ) :
    executions n m host = [] := by
  have hnone : m.report? = none := by rw [report?, due?_of_not_running h, Option.map_none]
  induction n with
  | zero => rfl
  | succ n ih => rw [executions, step_of_not_running h, ih, hnone]; rfl

/-- The log of some steps falls into its two parts. -/
theorem eventsN_eq (hrun : m.status = .running) (n : Nat) (host : σ) :
    eventsN n m host = executions n m host ++ (stepN n m host).1.conclusion := by
  induction n generalizing m host with
  | zero => exact (conclusion_of_running hrun).symm
  | succ n ih =>
      rw [eventsN_succ, executions, stepN_succ, events_callStep hrun, List.append_assoc,
        List.append_assoc]
      congr 1
      by_cases hs : (m.step host).1.status = .running
      · rw [conclusion_of_running hs, ih hs]
        rfl
      · rw [eventsN_of_not_running hs, executions_of_not_running hs, stepN_of_not_running hs,
          List.append_nil]
        rfl

theorem steps_stepN (n : Nat) (m : Machine) (host : σ) :
    (stepN n m host).1.steps = m.steps + (executions n m host).length := by
  induction n generalizing m host with
  | zero => rfl
  | succ n ih =>
      have hone : m.report?.toList.length = m.due?.toList.length := by
        rw [report?]
        cases m.due? <;> rfl
      rw [stepN_succ, ih, step_steps, executions, List.length_append, hone, Nat.add_assoc]

/-- The reports of executed cells come from one machine after the other, without a gap. -/
theorem report_of_lt_length {n i : Nat} (h : i < (executions n m host).length) :
    ∃ event, (stepN i m host).1.report? = some event ∧ (executions n m host)[i]? = some event := by
  induction n generalizing m host i with
  | zero => cases h
  | succ n ih =>
      rw [executions] at h ⊢
      cases hreport : m.report? with
      | none =>
          -- Without a cell to execute the step ends the run, or the run had ended.
          have hended : (m.step host).1.status ≠ .running := by
            obtain ⟨hend, -, hs⟩ | ⟨-, -, cause, -, hs⟩ | ⟨-, cell, hdue, -, -⟩ := m.step_cases host
            · rw [hs]
              exact hend
            · rw [hs]
              exact fun hrun => nomatch hrun
            · rw [report?, hdue] at hreport
              cases hreport
          rw [hreport, executions_of_not_running hended] at h
          cases h
      | some event =>
          rw [hreport] at h
          cases i with
          | zero => exact ⟨event, hreport, rfl⟩
          | succ i => exact ih (Nat.lt_of_succ_lt_succ h)

theorem level_of_report {event : Event} (h : m.report? = some event) : event.level = .trace := by
  obtain ⟨cell, -, rfl⟩ := Option.map_eq_some_iff.mp h
  rfl

theorem level_of_mem_executions {n : Nat} {event : Event} (h : event ∈ executions n m host) :
    event.level = .trace := by
  obtain ⟨i, hi⟩ := List.mem_iff_getElem?.mp h
  obtain ⟨hlt, -⟩ := List.getElem?_eq_some_iff.mp hi
  obtain ⟨found, hreport, hfound⟩ := report_of_lt_length hlt
  obtain rfl := Option.some.inj (hfound.symm.trans hi)
  exact level_of_report hreport

theorem level_of_mem_conclusion {event : Event} (h : event ∈ m.conclusion) :
    event.level = .debug := by
  cases hs : m.status with
  | running =>
      rw [conclusion_of_running hs] at h
      cases h
  | halted =>
      rw [conclusion_of_halted hs] at h
      rw [List.mem_singleton.mp h]
      rfl
  | failed fault =>
      rw [conclusion_of_failed hs] at h
      rw [List.mem_singleton.mp h]
      rfl

/-- The trace events of a log are those of the executed cells. -/
theorem countP_trace_eventsN (hrun : m.status = .running) (n : Nat) (host : σ) :
    ((eventsN n m host).countP fun event => event.level = .trace) =
      (executions n m host).length := by
  have htrace : ∀ event ∈ executions n m host, decide (event.level = .trace) = true := by
    intro event hevent
    exact decide_eq_true (level_of_mem_executions hevent)
  have hdebug : ∀ event ∈ (stepN n m host).1.conclusion,
      ¬ decide (event.level = .trace) = true := by
    intro event hevent
    rw [level_of_mem_conclusion hevent]
    decide
  rw [eventsN_eq hrun, List.countP_append, List.countP_eq_length.mpr htrace,
    List.countP_eq_zero.mpr hdebug, Nat.add_zero]

/-- The event at an index tells what the machine was like when it had executed that many cells. -/
theorem exists_executing_of_lt_length (hrun : m.status = .running) {n i : Nat}
    (h : i < (executions n m host).length) :
    ∃ cell, (stepN i m host).1.steps = m.steps + i ∧ (stepN i m host).1.due? = some cell ∧
      (eventsN n m host)[i]? = some (.executing (stepN i m host).1.position cell
        (stepN i m host).1.direction (stepN i m host).1.stack.depth) := by
  obtain ⟨event, hreport, hevent⟩ := report_of_lt_length h
  obtain ⟨cell, hdue, rfl⟩ := Option.map_eq_some_iff.mp hreport
  refine ⟨cell, steps_stepN_of_running (fetch_of_due hdue).1, hdue, ?_⟩
  rw [eventsN_eq hrun, List.getElem?_append_left h, hevent]

/-- A run that has ended did so in one of its steps. -/
theorem exists_last_step {n : Nat} (hrun : m.status = .running)
    (h : (stepN n m host).1.status ≠ .running) :
    ∃ k, (stepN k m host).1.status = .running ∧ stepN (k + 1) m host = stepN n m host := by
  induction n generalizing m host with
  | zero => exact absurd hrun h
  | succ n ih =>
      by_cases hs : (m.step host).1.status = .running
      · obtain ⟨k, hk, hlast⟩ := ih hs h
        exact ⟨k + 1, hk, hlast⟩
      · refine ⟨0, hrun, ?_⟩
        rw [stepN_succ, stepN_succ, stepN_of_not_running hs, stepN_of_not_running hs]

/-! ### The log -/

/-- A machine that has halted stands one cell past the halt instruction it executed last. -/
theorem exists_halt_of_halted {n : Nat} (hrun : m.status = .running)
    (h : (stepN n m host).1.status = .halted) :
    ∃ k, (stepN n m host).1.steps = m.steps + (k + 1) ∧
      (stepN k m host).1.position = (stepN n m host).1.behind ∧
      (stepN k m host).1.due? = some (.instruction .halt) := by
  obtain ⟨k, hk, hlast⟩ := exists_last_step hrun fun hr => nomatch hr.symm.trans h
  have hstep : stepN (k + 1) m host = (stepN k m host).1.step (stepN k m host).2 :=
    stepN_add k 1 m host
  rw [← hlast, hstep] at h ⊢
  obtain ⟨hdue, hbehind⟩ := due_of_step_halted hk h
  refine ⟨k, ?_, hbehind.symm, hdue⟩
  rw [step_steps_of_due hdue, steps_stepN_of_running hk, Nat.add_assoc]

/-- A machine that has failed gave its fault as the answer of the step in which it failed. -/
theorem exists_answer_of_failed {n : Nat} {fault : Fault} (hrun : m.status = .running)
    (h : (stepN n m host).1.status = .failed fault) :
    ∃ k, (stepN k m host).1.status = .running ∧
      ((stepN k m host).1.callStep (stepN k m host).2).answer = .error fault := by
  obtain ⟨k, hk, hlast⟩ := exists_last_step hrun fun hr => nomatch hr.symm.trans h
  have hstep : stepN (k + 1) m host = (stepN k m host).1.step (stepN k m host).2 :=
    stepN_add k 1 m host
  refine ⟨k, hk, ?_⟩
  rw [answer_callStep, ← hstep, hlast]
  exact answer_of_failed h

/-- A call of `run` that is made at any point of a run that fails answers with its fault. -/
theorem exists_run_of_failed (hm : m.Coherent) {n : Nat} {after : Machine} {left : σ}
    {fault : Fault} (hn : stepN n m host = (after, left)) (h : after.status = .failed fault)
    (i : Nat) :
    ∃ call, Completes (stepN i m host).1 (stepN i m host).2 call ∧
      call.answer = .error fault ∧ call.machine = after ∧ call.host = left := by
  obtain ⟨rest, hcall, hrest⟩ := (completes_iff_stepN hm).mp (completes_of_failed hm hn h)
  refine ⟨rest, hrest, ?_, ?_, ?_⟩
  · exact (congrArg Call.answer hcall).symm
  · exact (congrArg Call.machine hcall).symm
  · exact (congrArg Call.host hcall).symm

/-- The log is a transcript of the run. Whatever calls a machine was driven with, its log has one
trace event for each executed cell, and the event at an index tells what the machine looked like
right before it executed the cell of that number. Behind them there is nothing while the machine
runs. Once it has ended there is one event more, and nothing comes after it. Of a halt it tells the
count of cells and the place of the halt instruction, one step behind the machine. Of a failure it
tells the fault, which is what the step answered in which the machine failed, what a call of `run`
answers wherever on the way it is made, and what every further step and run answers. -/
theorem log_transcribes_run {f : Playfield} {seed : UInt64} {budget : Option UInt64} {m : Machine}
    {host₀ host : σ} {log : List Event} (h : Logged (start f seed budget) host₀ log m host) :
    let before := fun i => (stepN i (start f seed budget) host₀).1
    let hostBefore := fun i => (stepN i (start f seed budget) host₀).2
    (∀ i < m.steps, ∃ cell, (before i).steps = i ∧ (before i).due? = some cell ∧
      log[i]? = some (.executing (before i).position cell (before i).direction
        (before i).stack.depth)) ∧
    (log.countP fun event => event.level = .trace) = m.steps ∧
    (∀ event ∈ log.drop m.steps, event.level = .debug) ∧
    (m.state = .running → log.drop m.steps = []) ∧
    (m.state = .halted → log.drop m.steps = [.halted m.steps m.behind] ∧
      ∃ k, m.steps = k + 1 ∧ (before k).position = m.behind ∧
        (before k).due? = some (.instruction .halt)) ∧
    ∀ kind, m.state = .failed kind → ∃ fault, fault.kind = kind ∧ m.error = some fault ∧
      log.drop m.steps = [.failed fault] ∧
      (∃ k, (before k).state = .running ∧
        ((before k).callStep (hostBefore k)).answer = .error fault) ∧
      (∀ k, ∃ call, Completes (before k) (hostBefore k) call ∧
        call.answer = .error fault ∧ call.machine = m ∧ call.host = host) ∧
      m.Rests host (.error fault) := by
  intro before hostBefore
  have hrun : (start f seed budget).status = .running := rfl
  have hstart : (start f seed budget).Coherent := .start f seed budget
  have hm : m.Coherent := Reachable.coherent ⟨log, h⟩ hstart
  obtain ⟨n, hn, rfl⟩ := h.exists_stepN
  have hcount : m.steps = (executions n (start f seed budget) host₀).length := by
    have hsteps := steps_stepN n (start f seed budget) host₀
    rw [hn] at hsteps
    exact hsteps.trans (Nat.zero_add _)
  have hdrop : (eventsN n (start f seed budget) host₀).drop m.steps = m.conclusion := by
    rw [eventsN_eq hrun, hn, hcount, List.drop_left]
  rw [hdrop]
  refine ⟨?_, ?_, fun event hevent => level_of_mem_conclusion hevent, ?_, ?_, ?_⟩
  · intro i hi
    rw [hcount] at hi
    obtain ⟨cell, hsteps, hdue, hevent⟩ := exists_executing_of_lt_length hrun hi
    exact ⟨cell, hsteps.trans (Nat.zero_add i), hdue, hevent⟩
  · rw [countP_trace_eventsN hrun, hcount]
  · intro hrunning
    exact conclusion_of_running (hm.status_eq_running_iff.mpr hrunning)
  · intro hhalted
    rw [← hm.status_eq_halted_iff] at hhalted
    refine ⟨conclusion_of_halted hhalted, ?_⟩
    have hend : (stepN n (start f seed budget) host₀).1.status = .halted := by rwa [hn]
    obtain ⟨k, hsteps, hposition, hdue⟩ := exists_halt_of_halted hrun hend
    rw [hn] at hsteps hposition
    exact ⟨k, hsteps.trans (Nat.zero_add _), hposition, hdue⟩
  · intro kind hs
    obtain ⟨fault, herror, hkind, hrests⟩ := rests_of_failed hm hs host
    have hfailed : m.status = .failed fault := status_eq_failed_iff.mpr herror
    have hend : (stepN n (start f seed budget) host₀).1.status = .failed fault := by rwa [hn]
    obtain ⟨k, hk, hanswer⟩ := exists_answer_of_failed hrun hend
    rw [(hstart.stepN k host₀).status_eq_running_iff] at hk
    exact ⟨fault, hkind, herror, conclusion_of_failed hfailed, ⟨k, hk, hanswer⟩,
      exists_run_of_failed hstart hn hfailed, hrests⟩

/-- A machine is stepped, then run to its end, and then stepped once more, which reports nothing. -/
theorem log_transcribes_run_of_halt :
    let f : Playfield := ⟨1, 2, #[.digit 1, .instruction .halt], by decide, by decide, rfl⟩
    let first := start f 0 none
    let console := Console.ofInput [] {}
    let m := (stepN 2 first console).1
    let log : List Event := [.executing ⟨0, 0⟩ (.digit 1) .right 0,
      .executing ⟨0, 1⟩ (.instruction .halt) .right 1, .halted 2 ⟨0, 1⟩]
    Logged first console log m console ∧ m.state = .halted ∧ m.position = ⟨0, 2⟩ ∧
      log.drop 2 = [.halted m.steps m.behind] ∧
      log.countP (fun event => event.level = .trace) = 2 := by
  intro f first console m log
  have hrun : callRun 5 (first.step console).1 (first.step console).2 =
      some ⟨.ok (), m, console, log.drop 1⟩ := rfl
  have hlogged : Logged first console log m console := (Logged.refl.step.run hrun).step
  have hhalted : m.state = .halted := by decide
  obtain ⟨-, hcount, -, -, hend, -⟩ := log_transcribes_run hlogged
  exact ⟨hlogged, hhalted, by decide, (hend hhalted).1, hcount⟩

end Funge.Machine
