import Mathlib.Control.Monad.Basic
import Funge.Proofs.Effect

/-!
# What an observer sees of a machine

Whoever calls `step` again and again sees the answer of every call and what it reports, and the host
sees the calls that are made of it, each in the state it is in at that moment. `answers`, `eventsN`
and `hostCalls` list them for a number of steps. A step makes at most one host call, and `step_host`
says that nothing else of a step reaches the host. A host that keeps a record of the calls made of it
makes no difference to the machine, and finds these calls in its record (`Recorded`).
-/

namespace Funge

/-! ### Calls, one after another -/

namespace Call

variable {μ σ α : Type} (make : μ → σ → Call μ σ α)

/-- The answers when a call is made a number of times. -/
def answers : Nat → μ → σ → List (Except Fault α)
  | 0, _, _ => []
  | n + 1, m, host =>
    (make m host).answer :: answers n (make m host).machine (make m host).host

/-- What is reported when a call is made a number of times. -/
def reports : Nat → μ → σ → List Event
  | 0, _, _ => []
  | n + 1, m, host =>
    (make m host).events ++ reports n (make m host).machine (make m host).host

end Call

/-! ### Steps -/

variable {σ : Type} [Host σ]

/-- What a machine asks of its host. -/
inductive HostCall where
  | read (format : Format)
  | write (format : Format) (value : Int64)
deriving DecidableEq, Repr

/-- The state of a host after a call. -/
def HostCall.after (host : σ) : HostCall → σ
  | read format => (format.read host).2
  | write format v => (format.write v host).2

/-- The host call of an effect. -/
def Effect.hostCall? : Effect → Option HostCall
  | input format => some (.read format)
  | output format v => some (.write format v)
  | _ => none

namespace Machine

/-- The host call that a step makes, if it makes one. -/
def hostCall? (m : Machine) : Option HostCall := m.due?.bind fun cell => (m.effect cell).hostCall?

/-- The answers to a number of calls of `step`. -/
def answers (n : Nat) (m : Machine) (host : σ) : List (Except Fault State) :=
  Call.answers callStep n m host

/-- What a number of calls of `step` report. -/
def eventsN (n : Nat) (m : Machine) (host : σ) : List Event := Call.reports callStep n m host

/-- The host calls of a number of steps, each with the state of the host it is made in. -/
def hostCalls : Nat → Machine → σ → List (HostCall × σ)
  | 0, _, _ => []
  | n + 1, m, host =>
    (m.hostCall?.map fun call => (call, host)).toList ++
      hostCalls n (m.step host).1 (m.step host).2

theorem apply_host (m : Machine) (host : σ) (e : Effect) :
    (m.apply host e).2 = (e.hostCall?.map (·.after host)).getD host := by
  cases e with
  | input format =>
      change (m.receive host format.read).2 = (format.read host).2
      rw [receive_eq]
  | output format v =>
      change (m.deliver host (format.write v)).2 = (format.write v host).2
      rw [deliver_eq]
  | _ => rfl

/-- A step leaves the host as its host call leaves it. -/
theorem step_host (m : Machine) (host : σ) :
    (m.step host).2 = (m.hostCall?.map (·.after host)).getD host := by
  rw [hostCall?]
  obtain ⟨-, hd, hs⟩ | ⟨-, hd, cause, -, hs⟩ | ⟨-, cell, hd, -, hs⟩ := m.step_cases host
  · rw [hs, hd]
    rfl
  · rw [hs, hd]
    rfl
  · rw [hs, hd]
    exact apply_host _ host _

theorem answers_succ (n : Nat) (m : Machine) (host : σ) :
    answers (n + 1) m host =
      (m.step host).1.answer :: answers n (m.step host).1 (m.step host).2 := by
  rw [← answer_callStep]
  rfl

theorem answers_add (j k : Nat) (m : Machine) (host : σ) :
    answers (j + k) m host =
      answers j m host ++ answers k (stepN j m host).1 (stepN j m host).2 := by
  induction j generalizing m host with
  | zero => rw [Nat.zero_add]; rfl
  | succ j ih => rw [Nat.succ_add, answers_succ, answers_succ, ih, stepN_succ]; rfl

theorem answers_of_not_running {m : Machine} (h : m.status ≠ .running) (n : Nat) (host : σ) :
    answers n m host = List.replicate n m.answer := by
  induction n with
  | zero => rfl
  | succ n ih => rw [answers_succ, step_of_not_running h, ih, List.replicate_succ]

@[simp] theorem eventsN_zero (m : Machine) (host : σ) : eventsN 0 m host = [] := rfl

theorem eventsN_succ (n : Nat) (m : Machine) (host : σ) :
    eventsN (n + 1) m host =
      (m.callStep host).events ++ eventsN n (m.step host).1 (m.step host).2 := rfl

theorem eventsN_add (j k : Nat) (m : Machine) (host : σ) :
    eventsN (j + k) m host =
      eventsN j m host ++ eventsN k (stepN j m host).1 (stepN j m host).2 := by
  induction j generalizing m host with
  | zero => rw [Nat.zero_add]; rfl
  | succ j ih => rw [Nat.succ_add, eventsN_succ, eventsN_succ, ih, stepN_succ, List.append_assoc]

theorem eventsN_of_not_running {m : Machine} (h : m.status ≠ .running) (n : Nat) (host : σ) :
    eventsN n m host = [] := by
  induction n with
  | zero => rfl
  | succ n ih =>
      rw [eventsN_succ, step_of_not_running h, ih, callStep_of_not_running h, List.append_nil]

theorem hostCalls_of_not_running {m : Machine} (h : m.status ≠ .running) (n : Nat) (host : σ) :
    hostCalls n m host = [] := by
  have hcall : m.hostCall? = none := by rw [hostCall?, due?_of_not_running h, Option.bind_none]
  induction n with
  | zero => rfl
  | succ n ih =>
      rw [hostCalls, step_of_not_running h, ih, hcall]
      rfl

end Machine

/-! ### Hosts that keep a record -/

/-- A host together with the calls that were made of it. -/
structure Recorded (σ : Type) where
  host : σ
  calls : List HostCall

namespace Recorded

/-- A host answers through its record, which grows by the call. -/
instance : Host (Recorded σ) where
  readInteger r :=
    ((Host.readInteger r.host).1,
      ⟨(Host.readInteger r.host).2, r.calls ++ [.read .integer]⟩)
  readChar r :=
    ((Host.readChar r.host).1, ⟨(Host.readChar r.host).2, r.calls ++ [.read .char]⟩)
  writeInteger v r :=
    ((Host.writeInteger v r.host).1,
      ⟨(Host.writeInteger v r.host).2, r.calls ++ [.write .integer v]⟩)
  writeChar v r :=
    ((Host.writeChar v r.host).1, ⟨(Host.writeChar v r.host).2, r.calls ++ [.write .char v]⟩)

theorem read_eq (format : Format) (r : Recorded σ) :
    format.read r =
      ((format.read r.host).1, ⟨(format.read r.host).2, r.calls ++ [.read format]⟩) := by
  cases format <;> rfl

theorem write_eq (format : Format) (v : Int64) (r : Recorded σ) :
    format.write v r =
      ((format.write v r.host).1, ⟨(format.write v r.host).2, r.calls ++ [.write format v]⟩) := by
  cases format <;> rfl

/-- Keeping a record makes no difference to the machine, and the record grows by the host call of
the effect. -/
theorem apply_eq (m : Machine) (r : Recorded σ) (e : Effect) :
    m.apply r e =
      ((m.apply r.host e).1, ⟨(m.apply r.host e).2, r.calls ++ e.hostCall?.toList⟩) := by
  cases e with
  | input format =>
      simp only [Machine.apply, Machine.receive_eq, read_eq]
      rfl
  | output format v =>
      simp only [Machine.apply, Machine.deliver_eq, write_eq]
      rfl
  | _ => simp [Machine.apply, Effect.hostCall?]

/-- A step with a record is the step without one, and it records the host call it makes. -/
theorem step_eq (m : Machine) (r : Recorded σ) :
    m.step r =
      ((m.step r.host).1, ⟨(m.step r.host).2, r.calls ++ m.hostCall?.toList⟩) := by
  rw [Machine.hostCall?]
  by_cases hrun : m.status = .running
  · rw [Machine.due?_of_running hrun]
    cases hf : m.fetch with
    | error cause =>
        rw [Machine.step_of_fetch_error hrun hf, Machine.step_of_fetch_error hrun hf]
        exact congrArg (fun calls => (m.failHere cause, Recorded.mk r.host calls))
          (List.append_nil r.calls).symm
    | ok cell =>
        rw [Machine.step_of_fetch_ok hrun hf, Machine.step_of_fetch_ok hrun hf, apply_eq]
        rfl
  · rw [Machine.due?_of_not_running hrun, Machine.step_of_not_running hrun,
      Machine.step_of_not_running hrun]
    exact congrArg (fun calls => (m, Recorded.mk r.host calls)) (List.append_nil r.calls).symm

end Recorded

end Funge
