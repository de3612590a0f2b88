import Funge.Console
import Funge.Proofs.Reachable

/-!
# Runs to the end

A call of `run` makes step after step until one of them answers with a fault, or with a state that
is not the running one; then it returns, and for a program that goes on forever it never does.
`Completes` is that loop without any bound, with one constructor for each way a turn of it can go,
and it keeps what the loop answers and reports. `completes_iff_callRun` ties it to the run that gives
up after a number of steps: the loop completes exactly if some number is enough.

Whoever steps a machine by hand before calling `run` takes over the first turns of that loop. One
step is the first turn, or the only one (`completes_iff_step`); from there any number of steps can be
split off, and nothing is left to do once the machine has ended (`completes_iff_of_not_running`).
The loop looks at the answers of the steps, and whether a step does anything depends on what the
machine keeps. That these agree takes a machine whose state agrees with its fault, and every machine
is such a one that calls have led to from the start of a program.
-/

namespace Funge.Machine

variable {σ : Type} [Host σ]

/-- A call of `run` on a machine and its host returns, and this is what comes of it. -/
inductive Completes : Machine → σ → Call Machine σ Unit → Prop where
  /-- The first step ends the run. -/
  | stop {m : Machine} {host : σ} {answer : Except Fault Unit}
      (ended : runAnswer? (m.callStep host).answer = some answer) :
      Completes m host ⟨answer, (m.step host).1, (m.step host).2, (m.callStep host).events⟩
  /-- The first step leaves the machine running, and the loop goes on. -/
  | go {m : Machine} {host : σ} {call : Call Machine σ Unit}
      (running : runAnswer? (m.callStep host).answer = none)
      (rest : Completes (m.step host).1 (m.step host).2 call) :
      Completes m host (call.after (m.callStep host).events)

variable {m : Machine} {host : σ} {call : Call Machine σ Unit}

/-! ### The loop, turn by turn -/

/-- What a run answers on a machine that has ended: nothing, if it has halted, or its fault. -/
def ending (m : Machine) : Except Fault Unit := m.answer.map fun _ => ()

theorem ending_eq_error_iff {fault : Fault} :
    m.ending = .error fault ↔ m.status = .failed fault := by
  rw [← answer_eq_error_iff, ending]
  cases m.answer with
  | ok _ => simp [Except.map]
  | error found => simp [Except.map]

theorem ending_eq_ok_iff (hended : m.status ≠ .running) :
    m.ending = .ok () ↔ m.status = .halted := by
  cases hs : m.status with
  | running => exact absurd hs hended
  | failed fault => simp [ending_eq_error_iff.mpr hs]
  | halted => simp [ending, answer_of_not_failed (m := m) (by simp [hs]), Except.map]

/-- A step that leaves a machine running lets a run go on. -/
theorem runAnswer?_of_running (h : m.Coherent) (hrun : (m.step host).1.status = .running) :
    runAnswer? (m.callStep host).answer = none := by
  rw [answer_callStep, (h.step host).answer_eq, hrun]
  rfl

/-- A step that leaves a machine ended ends a run. -/
theorem runAnswer?_of_not_running (hended : (m.step host).1.status ≠ .running) :
    runAnswer? (m.callStep host).answer = some (m.step host).1.ending := by
  rw [answer_callStep, ending]
  cases hs : (m.step host).1.status with
  | running => exact absurd hs hended
  | failed fault => rw [answer_of_failed hs]; rfl
  | halted =>
      rw [answer_of_not_failed (by simp [hs]), (status_eq_halted_iff.mp hs).2]
      rfl

/-- On a machine that has ended a call of `run` returns at once, and does nothing. -/
theorem completes_iff_of_not_running (h : m.status ≠ .running) :
    Completes m host call ↔ call = ⟨m.ending, m, host, []⟩ := by
  have hstep : m.step host = (m, host) := step_of_not_running h host
  have hended : runAnswer? (m.callStep host).answer = some m.ending := by
    rw [runAnswer?_of_not_running (hstep.symm ▸ h), hstep]
  have hevents : (m.callStep host).events = [] := by rw [callStep_of_not_running h]
  constructor
  · intro hc
    cases hc with
    | stop found =>
        rw [hstep, hevents]
        rw [Option.some.inj (found.symm.trans hended)]
    | go running _ => cases running.symm.trans hended
  · rintro rfl
    have hc := Completes.stop hended
    rwa [hstep, hevents] at hc

/-- A call of `run` does what one step and a call of `run` after it do. -/
theorem completes_iff_step (h : m.Coherent) :
    Completes m host call ↔
      ∃ rest, call = rest.after (m.callStep host).events ∧
        Completes (m.step host).1 (m.step host).2 rest := by
  by_cases hs : (m.step host).1.status = .running
  · have hgo := runAnswer?_of_running h hs
    constructor
    · intro hc
      cases hc with
      | stop ended => cases hgo.symm.trans ended
      | go _ rest => exact ⟨_, rfl, rest⟩
    · rintro ⟨rest, rfl, hc⟩
      exact .go hgo hc
  · -- The step ended the machine, and the call of `run` after it does nothing.
    have hstop := runAnswer?_of_not_running hs
    simp only [completes_iff_of_not_running hs, exists_eq_right]
    rw [Call.after, List.append_nil]
    constructor
    · intro hc
      cases hc with
      | stop ended => rw [Option.some.inj (ended.symm.trans hstop)]
      | go running _ => cases running.symm.trans hstop
    · rintro rfl
      exact .stop hstop

/-- A call of `run` does what any number of steps and a call of `run` after them do. -/
theorem completes_iff_stepN (h : m.Coherent) {n : Nat} :
    Completes m host call ↔
      ∃ rest, call = rest.after (eventsN n m host) ∧
        Completes (stepN n m host).1 (stepN n m host).2 rest := by
  induction n generalizing m host call with
  | zero => simp [Call.after]
  | succ n ih =>
      rw [completes_iff_step h, eventsN_succ, stepN_succ]
      constructor
      · rintro ⟨_, rfl, hc⟩
        obtain ⟨rest, rfl, hrest⟩ := (ih (h.step host)).mp hc
        exact ⟨rest, Call.after_after .., hrest⟩
      · rintro ⟨rest, rfl, hrest⟩
        exact ⟨_, (Call.after_after ..).symm, (ih (h.step host)).mpr ⟨rest, rfl, hrest⟩⟩

/-- If some number of steps ends the machine, a call of `run` returns what these steps lead to. -/
theorem completes_of_stepN (h : m.Coherent) {n : Nat} {after : Machine} {left : σ}
    (hn : stepN n m host = (after, left)) (hended : after.status ≠ .running) :
    Completes m host ⟨after.ending, after, left, eventsN n m host⟩ := by
  refine (completes_iff_stepN h (n := n)).mpr ⟨⟨after.ending, after, left, []⟩, ?_, ?_⟩
  · rw [Call.after, List.append_nil]
  · rw [hn]
    exact (completes_iff_of_not_running hended).mpr rfl

theorem completes_of_halted (h : m.Coherent) {n : Nat} {after : Machine} {left : σ}
    (hn : stepN n m host = (after, left)) (hhalted : after.status = .halted) :
    Completes m host ⟨.ok (), after, left, eventsN n m host⟩ := by
  have hended : after.status ≠ .running := by simp [hhalted]
  rw [← (ending_eq_ok_iff hended).mpr hhalted]
  exact completes_of_stepN h hn hended

theorem completes_of_failed (h : m.Coherent) {n : Nat} {after : Machine} {left : σ} {fault : Fault}
    (hn : stepN n m host = (after, left)) (hfailed : after.status = .failed fault) :
    Completes m host ⟨.error fault, after, left, eventsN n m host⟩ := by
  rw [← ending_eq_error_iff.mpr hfailed]
  exact completes_of_stepN h hn (by simp [hfailed])

/-- A run leaves a machine that has ended, and answers what there is to be said of it. -/
theorem Completes.ends (hm : m.Coherent) (h : Completes m host call) :
    call.machine.Coherent ∧ call.machine.status ≠ .running ∧
      call.answer = call.machine.ending := by
  induction h with
  | @stop m host answer ended =>
      have hs : (m.step host).1.status ≠ .running := fun hrun => by
        cases (runAnswer?_of_running hm hrun).symm.trans ended
      exact ⟨hm.step host, hs, Option.some.inj (ended.symm.trans (runAnswer?_of_not_running hs))⟩
  | @go m host call _ _ ih => exact ih (hm.step host)

/-- A run answers with nothing exactly if its machine has halted. -/
theorem Completes.answer_eq_ok_iff (hm : m.Coherent) (h : Completes m host call) :
    call.answer = .ok () ↔ call.machine.state = .halted := by
  obtain ⟨hcoherent, hended, hanswer⟩ := h.ends hm
  rw [hanswer, ending_eq_ok_iff hended, hcoherent.status_eq_halted_iff]

/-- A run answers with a fault exactly if its machine keeps it. -/
theorem Completes.answer_eq_error_iff (hm : m.Coherent) (h : Completes m host call)
    {fault : Fault} : call.answer = .error fault ↔ call.machine.error = some fault := by
  obtain ⟨-, -, hanswer⟩ := h.ends hm
  rw [hanswer, ending_eq_error_iff, status_eq_failed_iff]

/-- A call of `run` can return in one way only. -/
theorem Completes.unique {call' : Call Machine σ Unit} (h : Completes m host call)
    (h' : Completes m host call') : call' = call := by
  induction h generalizing call' with
  | stop ended =>
      cases h' with
      | stop ended' => rw [Option.some.inj (ended'.symm.trans ended)]
      | go running' _ => cases running'.symm.trans ended
  | go running _ ih =>
      cases h' with
      | stop ended' => cases running.symm.trans ended'
      | go _ rest' => rw [ih rest']

/-! ### The loop and the runs that give up -/

theorem Completes.exists_runFrom (h : Completes m host call) (log : Array Event) :
    ∃ n, runFrom n log m host = some (call.after log.toList) := by
  induction h generalizing log with
  | @stop m host answer ended =>
      refine ⟨1, ?_⟩
      simp only [runFrom, ended, Call.after, Array.toList_appendList]
      rfl
  | @go m host call running _ ih =>
      obtain ⟨n, hn⟩ := ih (log ++ (m.callStep host).events)
      refine ⟨n + 1, ?_⟩
      rw [runFrom]
      simp only [running]
      rw [Call.after_after, ← Array.toList_appendList]
      exact hn

theorem completes_of_runFrom {n : Nat} {log : Array Event} (h : runFrom n log m host = some call) :
    ∃ rest, call = rest.after log.toList ∧ Completes m host rest := by
  induction n generalizing log m host with
  | zero => cases h
  | succ n ih =>
      rw [runFrom] at h
      cases ha : runAnswer? (m.callStep host).answer with
      | some answer =>
          simp only [ha] at h
          obtain rfl := Option.some.inj h
          refine ⟨_, ?_, .stop ha⟩
          rw [Call.after, Array.toList_appendList]
          rfl
      | none =>
          simp only [ha] at h
          obtain ⟨rest, rfl, hrest⟩ := ih h
          exact ⟨_, by rw [Call.after_after, Array.toList_appendList], .go ha hrest⟩

/-- The loop completes exactly if some number of steps is enough for a run that gives up, and then
that run is the call. -/
theorem completes_iff_callRun :
    Completes m host call ↔ ∃ n, callRun n m host = some call := by
  constructor
  · intro h
    exact h.exists_runFrom #[]
  · rintro ⟨n, hn⟩
    obtain ⟨rest, rfl, hrest⟩ := completes_of_runFrom hn
    exact hrest

/-- A run that is given enough steps to end the machine makes them, or as many as it needs. -/
theorem runFrom_of_ended (h : m.Coherent) {n : Nat}
    (hended : (stepN (n + 1) m host).1.status ≠ .running) (log : Array Event) :
    runFrom (n + 1) log m host =
      some ⟨(stepN (n + 1) m host).1.ending, (stepN (n + 1) m host).1, (stepN (n + 1) m host).2,
        log.toList ++ eventsN (n + 1) m host⟩ := by
  induction n generalizing m host log with
  | zero =>
      have hstop : runAnswer? (m.callStep host).answer = some (m.step host).1.ending :=
        runAnswer?_of_not_running hended
      rw [runFrom]
      simp only [hstop, Array.toList_appendList]
      rw [eventsN_succ, eventsN_zero, List.append_nil]
      rfl
  | succ n ih =>
      rw [runFrom]
      by_cases hs : (m.step host).1.status = .running
      · simp only [runAnswer?_of_running h hs]
        refine (ih (h.step host) hended _).trans ?_
        rw [Array.toList_appendList, List.append_assoc, eventsN_succ (n + 1)]
        rfl
      · -- The steps that are left over do nothing.
        have hrest := stepN_of_not_running hs (n + 1) (m.step host).2
        simp only [runAnswer?_of_not_running hs, stepN_succ (n + 1), hrest,
          Array.toList_appendList]
        rw [eventsN_succ, eventsN_of_not_running hs, List.append_nil]
        rfl

theorem callRun_of_ended (h : m.Coherent) {n : Nat}
    (hended : (stepN (n + 1) m host).1.status ≠ .running) :
    callRun (n + 1) m host =
      some ⟨(stepN (n + 1) m host).1.ending, (stepN (n + 1) m host).1, (stepN (n + 1) m host).2,
        eventsN (n + 1) m host⟩ :=
  runFrom_of_ended h hended #[]

/-! ### Calls on a machine that has ended -/

/-- Calls of a machine give an answer and do nothing else: neither a step nor a run changes it or
its host, calls the host, or reports anything. -/
structure Rests (m : Machine) (host : σ) (answer : Except Fault State) : Prop where
  unchanged : ∀ n, stepN n m host = (m, host)
  answers : ∀ n, answers n m host = List.replicate n answer
  hostCalls : ∀ n, hostCalls n m host = []
  events : ∀ n, eventsN n m host = []
  run : ∀ call, Completes m host call ↔ call = ⟨answer.map fun _ => (), m, host, []⟩

theorem rests_of_not_running (h : m.status ≠ .running) (host : σ) : m.Rests host m.answer where
  unchanged n := stepN_of_not_running h n host
  answers n := answers_of_not_running h n host
  hostCalls n := hostCalls_of_not_running h n host
  events n := eventsN_of_not_running h n host
  run _ := completes_iff_of_not_running h

/-- A coherent machine in the state of a halt rests with that state as its answer. -/
theorem rests_of_halted (hm : m.Coherent) (h : m.state = .halted) (host : σ) :
    m.Rests host (.ok .halted) := by
  have hs : m.status = .halted := hm.status_eq_halted_iff.mpr h
  have hanswer : m.answer = .ok .halted := by rw [hm.answer_eq, hs, Status.answer]
  exact hanswer ▸ rests_of_not_running (by simp [hs]) host

/-- A coherent machine in the state of a failure keeps a fault of that kind, and rests with it as
its answer. -/
theorem rests_of_failed (hm : m.Coherent) {kind : FaultKind} (h : m.state = .failed kind)
    (host : σ) :
    ∃ fault, m.error = some fault ∧ fault.kind = kind ∧ m.Rests host (.error fault) := by
  obtain ⟨fault, hfault, hkind⟩ := (hm kind).mp h
  have hs : m.status = .failed fault := status_eq_failed_iff.mpr hfault
  exact ⟨fault, hfault, hkind, answer_of_failed hs ▸ rests_of_not_running (by simp [hs]) host⟩

/-- Stepping and running agree, and machines that have ended stay as they are. The machine is one
that calls have led to from the start of a program, and the host is any host. A call of `run` is the
loop that gives up after no number of steps. Whatever number of steps is made first, also past the
end of the run, the call of `run` after them returns exactly if a call at once does, with the same
answer, the same machine and the same host, and the steps have reported what it leaves out. What a
step answers is how the machine stands that it leaves, and a run answers with nothing if its machine
has halted, and with the fault that it has failed with. A machine that has halted answers every
further step with this state, and one that has failed answers with its fault, as a run does; neither
changes it or its host, calls the host, or reports anything. -/
theorem run_after_steps {τ : Type} [Host τ] {f : Playfield} {seed : UInt64}
    {budget : Option UInt64} {m : Machine} {host₀ host₁ : τ}
    (h : Reachable (start f seed budget) host₀ m host₁) (host : σ) :
    (∀ call, Completes m host call ↔ ∃ n, callRun n m host = some call) ∧
    (∀ n call, Completes m host call ↔ ∃ rest, call = rest.after (eventsN n m host) ∧
      Completes (stepN n m host).1 (stepN n m host).2 rest) ∧
    (∀ call call', Completes m host call → Completes m host call' → call' = call) ∧
    (m.callStep host).answer = (m.step host).1.status.answer ∧
    (∀ call, Completes m host call →
      (call.answer = .ok () ↔ call.machine.state = .halted) ∧
        ∀ fault, call.answer = .error fault ↔ call.machine.error = some fault) ∧
    (m.state = .halted → m.Rests host (.ok .halted)) ∧
    ∀ kind, m.state = .failed kind →
      ∃ fault, m.error = some fault ∧ fault.kind = kind ∧ m.Rests host (.error fault) := by
  have hm : m.Coherent := h.coherent (.start f seed budget)
  refine ⟨fun _ => completes_iff_callRun, fun n _ => completes_iff_stepN hm,
    fun _ _ hc hc' => hc.unique hc', ?_,
    fun _ hc => ⟨hc.answer_eq_ok_iff hm, fun _ => hc.answer_eq_error_iff hm⟩,
    fun hs => rests_of_halted hm hs host, fun kind hs => rests_of_failed hm hs host⟩
  rw [answer_callStep, (hm.step host).answer_eq]

/-- A program that halts, and one that divides by zero, are run by hand up to their ends. A call of
`run` after them, or a step, answers as the last step did. -/
theorem run_after_steps_of_halt_and_fault :
    let halting : Playfield := ⟨1, 1, #[.instruction .halt], by decide, by decide, rfl⟩
    let dividing : Playfield := ⟨1, 1, #[.instruction .divide], by decide, by decide, rfl⟩
    let host := Console.ofInput [] {}
    let halted := (stepN 1 (start halting 0 none) host).1
    let failed := (stepN 1 (start dividing 0 none) host).1
    halted.state = .halted ∧ halted.Rests host (.ok .halted) ∧
      failed.state = .failed .divisionByZero ∧
      failed.Rests host (.error (Cause.divisionByZero.faultAt .origin)) := by
  intro halting dividing host halted failed
  have hhalted := run_after_steps (.of_stepN 1 (start halting 0 none) host) host
  have hfailed := run_after_steps (.of_stepN 1 (start dividing 0 none) host) host
  have hs : halted.state = .halted := by decide
  have hf : failed.state = .failed .divisionByZero := by decide
  refine ⟨hs, hhalted.2.2.2.2.2.1 hs, hf, ?_⟩
  obtain ⟨fault, herror, -, hrests⟩ := hfailed.2.2.2.2.2.2 _ hf
  have hfault : failed.error = some (Cause.divisionByZero.faultAt .origin) := by decide
  obtain rfl := Option.some.inj (herror.symm.trans hfault)
  exact hrests

end Funge.Machine
