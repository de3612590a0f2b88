import Funge.Machine.Step

/-!
# Runs

A call of `run` makes steps until one of them fails or the machine does not run any more. Programs
can run forever, so `callRun` takes the number of steps after which it gives up, which is not an
answer; every larger number gives the same answer once there is one. A budget makes every run return
within one step more than it allows.
-/

namespace Funge.Machine

variable {σ : Type} [Host σ]

/-- The machine and its host after a number of calls of `step`, whatever they answer. -/
def stepN (n : Nat) (m : Machine) (host : σ) : Machine × σ := Call.iterate callStep n m host

/-- What a run answers when one of its steps has given an answer; nothing as long as it goes on. -/
def runAnswer? : Except Fault State → Option (Except Fault Unit)
  | .ok .running => none
  | .ok .halted | .ok (.failed _) => some (.ok ())
  | .error fault => some (.error fault)

/-- Steps until one of them ends the run, at most as many as given, with what they report added to
what was reported before. -/
def runFrom : Nat → Array Event → Machine → σ → Option (Call Machine σ Unit)
  | 0, _, _, _ => none
  | n + 1, log, m, host =>
    let call := m.callStep host
    let log := log ++ call.events
    match runAnswer? call.answer with
    | none => runFrom n log call.machine call.host
    | some answer => some ⟨answer, call.machine, call.host, log.toList⟩

/-- A call of `run`; nothing if it takes more steps than given. -/
def callRun (n : Nat) (m : Machine) (host : σ) : Option (Call Machine σ Unit) :=
  runFrom n #[] m host

@[simp] theorem stepN_zero (m : Machine) (host : σ) : stepN 0 m host = (m, host) := rfl

theorem stepN_succ (n : Nat) (m : Machine) (host : σ) :
    stepN (n + 1) m host = stepN n (m.step host).1 (m.step host).2 := rfl

theorem stepN_add (j k : Nat) (m : Machine) (host : σ) :
    stepN (j + k) m host = stepN k (stepN j m host).1 (stepN j m host).2 := by
  induction j generalizing m host with
  | zero => rw [Nat.zero_add]; rfl
  | succ j ih => rw [Nat.succ_add, stepN_succ, ih]; rfl

end Funge.Machine
