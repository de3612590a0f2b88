import Funge.Proofs.Observation

/-!
# Reachable machines

Whoever holds a machine can call `step` and `run` on it in any order and any number of times.
`Logged` is what such calls lead to from a machine and its host, together with everything they have
reported, and `Reachable` is the same without the reports. A call of `run` is some number of steps,
so everything is reached by steps alone (`Logged.exists_stepN`), and what one step preserves holds of
every reachable machine (`Reachable.invariant`).

The first such invariant is that the state of a machine and the fault it keeps agree
(`Reachable.coherent`). Where they do, what a call of `step` answers is the status of the machine
that it leaves (`Coherent.answer_eq`).
-/

namespace Funge.Machine

variable {σ : Type} [Host σ]

/-! ### A run is a number of steps -/

/-- A run makes some number of steps, at most as many as it was given, and reports what they
report. -/
theorem exists_runFrom_eq {n : Nat} {log : Array Event} {m : Machine} {host : σ}
    {call : Call Machine σ Unit} (h : runFrom n log m host = some call) :
    ∃ k ≤ n, stepN k m host = (call.machine, call.host) ∧
      call.events = log.toList ++ eventsN k m host := by
  induction n generalizing log m host with
  | zero => cases h
  | succ n ih =>
      rw [runFrom] at h
      cases ha : runAnswer? (m.callStep host).answer with
      | some answer =>
          simp only [ha] at h
          obtain rfl := Option.some.inj h
          refine ⟨1, Nat.succ_le_succ (Nat.zero_le n), rfl, ?_⟩
          rw [eventsN_succ, eventsN_zero, List.append_nil, Array.toList_appendList]
      | none =>
          simp only [ha] at h
          obtain ⟨k, hk, hstep, hevents⟩ := ih h
          refine ⟨k + 1, Nat.succ_le_succ hk, hstep, ?_⟩
          rw [hevents, eventsN_succ, Array.toList_appendList, List.append_assoc]
          rfl

theorem exists_callRun_eq {n : Nat} {m : Machine} {host : σ} {call : Call Machine σ Unit}
    (h : callRun n m host = some call) :
    ∃ k ≤ n, stepN k m host = (call.machine, call.host) ∧ call.events = eventsN k m host :=
  exists_runFrom_eq h

/-! ### Driving a machine -/

/-- A machine and its host that calls of `step` and `run` lead to, and what these calls have
reported. -/
inductive Logged (m₀ : Machine) (host₀ : σ) : List Event → Machine → σ → Prop where
  | refl : Logged m₀ host₀ [] m₀ host₀
  | step {log : List Event} {m : Machine} {host : σ} : Logged m₀ host₀ log m host →
      Logged m₀ host₀ (log ++ (m.callStep host).events) (m.step host).1 (m.step host).2
  | run {log : List Event} {m : Machine} {host : σ} {n : Nat} {call : Call Machine σ Unit} :
      Logged m₀ host₀ log m host → callRun n m host = some call →
      Logged m₀ host₀ (log ++ call.events) call.machine call.host

/-- A machine and its host that calls of `step` and `run` lead to. -/
def Reachable (m₀ : Machine) (host₀ : σ) (m : Machine) (host : σ) : Prop :=
  ∃ log, Logged m₀ host₀ log m host

variable {m₀ m : Machine} {host₀ host : σ} {log : List Event}

theorem Logged.exists_stepN (h : Logged m₀ host₀ log m host) :
    ∃ n, stepN n m₀ host₀ = (m, host) ∧ log = eventsN n m₀ host₀ := by
  induction h with
  | refl => exact ⟨0, rfl, rfl⟩
  | @step log m host _ ih =>
      obtain ⟨n, hn, rfl⟩ := ih
      refine ⟨n + 1, ?_, ?_⟩
      · rw [stepN_add, hn]
        rfl
      · rw [eventsN_add, hn, eventsN_succ, eventsN_zero, List.append_nil]
  | @run log m host k call _ hcall ih =>
      obtain ⟨n, hn, rfl⟩ := ih
      obtain ⟨j, -, hj, hevents⟩ := exists_callRun_eq hcall
      refine ⟨n + j, ?_, ?_⟩
      · rw [stepN_add, hn, hj]
      · rw [hevents, eventsN_add, hn]

namespace Reachable

theorem refl (m : Machine) (host : σ) : Reachable m host m host := ⟨[], .refl⟩

theorem step (h : Reachable m₀ host₀ m host) :
    Reachable m₀ host₀ (m.step host).1 (m.step host).2 := by
  obtain ⟨log, hlog⟩ := h
  exact ⟨_, hlog.step⟩

theorem run (h : Reachable m₀ host₀ m host) {n : Nat} {call : Call Machine σ Unit}
    (hcall : callRun n m host = some call) : Reachable m₀ host₀ call.machine call.host := by
  obtain ⟨log, hlog⟩ := h
  exact ⟨_, hlog.run hcall⟩

theorem exists_stepN (h : Reachable m₀ host₀ m host) : ∃ n, stepN n m₀ host₀ = (m, host) := by
  obtain ⟨log, hlog⟩ := h
  obtain ⟨n, hn, -⟩ := hlog.exists_stepN
  exact ⟨n, hn⟩

theorem of_stepN (n : Nat) (m : Machine) (host : σ) :
    Reachable m host (stepN n m host).1 (stepN n m host).2 := by
  induction n with
  | zero => exact .refl m host
  | succ n ih =>
      rw [stepN_add]
      exact ih.step

/-- What holds of a machine and its host at the start and is preserved by a step holds of everything
reachable. -/
theorem invariantWithHost {P : Machine → σ → Prop} (h : Reachable m₀ host₀ m host)
    (start : P m₀ host₀)
    (preserved : ∀ (m : Machine) (host : σ), P m host → P (m.step host).1 (m.step host).2) :
    P m host := by
  have all : ∀ n, ∀ (m : Machine) (host : σ), P m host →
      P (stepN n m host).1 (stepN n m host).2 := by
    intro n
    induction n with
    | zero => exact fun _ _ hp => hp
    | succ n ih => exact fun m host hp => ih _ _ (preserved m host hp)
  obtain ⟨n, hn⟩ := h.exists_stepN
  simpa only [hn] using all n m₀ host₀ start

/-- What holds at the start and is preserved by a step holds of every reachable machine. -/
theorem invariant {P : Machine → Prop} (h : Reachable m₀ host₀ m host) (start : P m₀)
    (preserved : ∀ (m : Machine) (host : σ), P m → P (m.step host).1) : P m :=
  h.invariantWithHost (P := fun m _ => P m) start preserved

end Reachable

/-! ### State and fault -/

/-- The state of a machine is a failure exactly if the machine keeps a fault, and then it is one of
the kind of the fault. -/
def Coherent (m : Machine) : Prop :=
  ∀ kind, m.state = .failed kind ↔ ∃ fault, m.error = some fault ∧ fault.kind = kind

namespace Coherent

omit [Host σ]

theorem start (f : Playfield) (seed : UInt64) (budget : Option UInt64) :
    (Machine.start f seed budget).Coherent :=
  fun _ => by simp [Machine.start]

theorem failed (m : Machine) (fault : Fault) : (m.failed fault).Coherent := by
  intro kind
  change State.failed fault.kind = .failed kind ↔
    ∃ found, some fault = some found ∧ found.kind = kind
  simp

/-- A machine without a fault is coherent in any state that is no failure. -/
theorem of_error_eq_none (he : m.error = none) (hs : ∀ kind, m.state ≠ .failed kind) :
    m.Coherent := by
  intro kind
  refine ⟨fun h => absurd h (hs kind), ?_⟩
  rintro ⟨fault, hfault, -⟩
  cases he.symm.trans hfault

theorem status_eq_running_iff (h : m.Coherent) : m.status = .running ↔ m.state = .running := by
  rw [Machine.status_eq_running_iff]
  constructor
  · rintro ⟨he, hs⟩
    cases hstate : m.state with
    | running => rfl
    | halted => exact absurd hstate hs
    | failed kind =>
        obtain ⟨fault, hfault, -⟩ := (h kind).mp hstate
        cases he.symm.trans hfault
  · intro hs
    refine ⟨Option.eq_none_iff_forall_ne_some.mpr fun fault hfault => ?_, by simp [hs]⟩
    cases hs.symm.trans ((h fault.kind).mpr ⟨fault, hfault, rfl⟩)

theorem status_eq_halted_iff (h : m.Coherent) : m.status = .halted ↔ m.state = .halted := by
  rw [Machine.status_eq_halted_iff]
  refine and_iff_right_of_imp fun hs => Option.eq_none_iff_forall_ne_some.mpr fun fault hfault => ?_
  cases hs.symm.trans ((h fault.kind).mpr ⟨fault, hfault, rfl⟩)

/-- What a coherent machine answers is its status. -/
theorem answer_eq (h : m.Coherent) : m.answer = m.status.answer := by
  cases hs : m.status with
  | failed fault => exact answer_of_failed hs
  | halted =>
      rw [answer_of_not_failed (by simp [hs]), h.status_eq_halted_iff.mp hs, Status.answer]
  | running =>
      rw [answer_of_not_failed (by simp [hs]), h.status_eq_running_iff.mp hs, Status.answer]

end Coherent

/-- An effect keeps a running machine coherent: it halts it or fails it, or does neither. -/
theorem Coherent.apply (h : m.Coherent) (hrun : m.status = .running) (host : σ) (e : Effect) :
    (m.apply host e).1.Coherent := by
  obtain ⟨cause, -, heq⟩ | ⟨-, heq⟩ | ⟨p, v, g, -, -, heq⟩ | ⟨s, p, d, b, g, -, heq⟩ :=
    m.apply_cases host e
  · rw [heq]
    exact .failed m _
  · rw [heq]
    exact .of_error_eq_none (Machine.status_eq_running_iff.mp hrun).1 (by simp)
  · rw [heq]
    exact h
  · rw [heq]
    exact h

/-- The places where a machine keeps its state and its fault agree after every step. -/
theorem Coherent.step (h : m.Coherent) (host : σ) : (m.step host).1.Coherent := by
  obtain ⟨-, -, hs⟩ | ⟨-, -, cause, -, hs⟩ | ⟨hrun, cell, -, -, hs⟩ := m.step_cases host
  · rw [hs]
    exact h
  · rw [hs]
    exact .failed m _
  · rw [hs]
    have hbegin : (m.begin cell).Coherent := h
    exact hbegin.apply hrun host (m.effect cell)

theorem Reachable.coherent (h : Reachable m₀ host₀ m host) (h₀ : m₀.Coherent) : m.Coherent :=
  h.invariant h₀ fun _ host hm => hm.step host

theorem Coherent.stepN (h : m.Coherent) (n : Nat) (host : σ) : (stepN n m host).1.Coherent :=
  (Reachable.of_stepN n m host).coherent h

end Funge.Machine
