import Funge.Event

/-!
# Calls

Whoever drives a machine makes calls of it. A call works on the machine and on its host, and leaves
both behind it; it answers with a value or with a fault, and on its way it reports events.
-/

namespace Funge

variable {μ σ α : Type}

/-- What comes of a call. -/
structure Call (μ σ α : Type) where
  answer : Except Fault α
  /-- The machine that the call leaves. -/
  machine : μ
  /-- The host that the call leaves. -/
  host : σ
  /-- What the call reported, in order. -/
  events : List Event

namespace Call

/-- A call with reports before its own. -/
def after (events : List Event) (call : Call μ σ α) : Call μ σ α :=
  { call with events := events ++ call.events }

/-- A call that reports an event and then goes on as another one. -/
def reporting (event : Event) (call : Call μ σ α) : Call μ σ α := call.after [event]

/-- The machine and the host that are left when a call is made a number of times, whatever the
answers are. -/
def iterate (make : μ → σ → Call μ σ α) : Nat → μ → σ → μ × σ
  | 0, m, host => (m, host)
  | n + 1, m, host =>
    let call := make m host
    iterate make n call.machine call.host

theorem after_after (first second : List Event) (call : Call μ σ α) :
    (call.after second).after first = call.after (first ++ second) := by
  simp only [after, List.append_assoc]

end Call

end Funge
