import Funge.Console
import Funge.Proofs.Observation
import Mathlib.Data.List.GetD
import Mathlib.Data.List.TakeWhile

/-!
# Stacks on a pile of zeros

A stack that has run out answers zero, so zeros at its bottom make no difference: two stacks are
`Equiv` when they are equal without the zeros at their bottoms, which is to say that they hold the
same value at every depth (`equiv_iff_peek`). An instruction sees its operands and never the depth
of the stack, so equivalent stacks stay equivalent, and two machines that differ by no more than
that cannot be told apart by any number of steps, neither by their answers nor by their hosts.
-/

namespace Funge

/-! ### Equivalent stacks -/

namespace Stack

/-- The values from the bottom to the top, without the zeros at the bottom. -/
def trimmed (s : Stack) : List Int64 := s.toList.dropWhile (· = 0)

/-- Stacks that are equal up to zeros at their bottoms. -/
def Equiv (s t : Stack) : Prop := s.trimmed = t.trimmed

theorem peek_eq_getD (s : Stack) (n : Nat) : s.peek n = s.values.getD n 0 := by
  induction n generalizing s with
  | zero =>
      change s.values.headD 0 = _
      cases s.values <;> rfl
  | succ n ih =>
      change s.rest.peek n = _
      rw [ih]
      change s.values.tail.getD n 0 = _
      cases s.values <;> rfl

theorem getD_append_zeros {vs zeros : List Int64} (h : ∀ v ∈ zeros, v = 0) (n : Nat) :
    (vs ++ zeros).getD n 0 = vs.getD n 0 := by
  by_cases hn : n < vs.length
  · exact List.getD_append _ _ _ _ hn
  · have hle : vs.length ≤ n := Nat.le_of_not_lt hn
    rw [List.getD_append_right _ _ _ _ hle, List.getD_eq_default _ _ hle,
      List.getD_eq_getElem?_getD]
    cases hz : zeros[n - vs.length]? with
    | none => rfl
    | some v => exact h v (List.mem_of_getElem? hz)

/-- The zeros at the bottom are not seen from above. -/
theorem peek_eq_getD_trimmed (s : Stack) (n : Nat) : s.peek n = s.trimmed.reverse.getD n 0 := by
  have hv : s.values = s.trimmed.reverse ++ (s.toList.takeWhile (· = 0)).reverse := by
    rw [trimmed, ← List.reverse_append, List.takeWhile_append_dropWhile, toList,
      List.reverse_reverse]
  rw [peek_eq_getD, hv]
  apply getD_append_zeros
  intro v hmem
  simpa using List.mem_takeWhile_imp (List.mem_reverse.mp hmem)

/-- Where a trimmed stack ends, it ends with a value that can be seen. -/
theorem peek_bottom_ne_zero {s : Stack} {n : Nat} (h : s.trimmed.length = n + 1) :
    s.peek n ≠ 0 := by
  have hpos : 0 < s.trimmed.length := by omega
  have hdepth : s.trimmed.length - 1 - n = 0 := by omega
  have hbottom := List.dropWhile_get_zero_not (fun v : Int64 => decide (v = 0)) s.toList hpos
  rw [peek_eq_getD_trimmed, List.getD_reverse n (by omega), hdepth,
    List.getD_eq_getElem _ _ hpos]
  simpa [trimmed] using hbottom

theorem length_trimmed_le {s t : Stack} (h : ∀ n, s.peek n = t.peek n) :
    t.trimmed.length ≤ s.trimmed.length := by
  apply Nat.le_of_not_lt
  intro hlt
  obtain ⟨n, hn⟩ := Nat.exists_eq_add_of_lt hlt
  apply peek_bottom_ne_zero hn
  rw [← h, peek_eq_getD_trimmed, List.getD_eq_default]
  rw [List.length_reverse]
  omega

/-- Equivalent stacks are those that hold the same value at every depth. -/
theorem equiv_iff_peek {s t : Stack} : s.Equiv t ↔ ∀ n, s.peek n = t.peek n := by
  constructor
  · intro h n
    rw [peek_eq_getD_trimmed, peek_eq_getD_trimmed, h]
  · intro h
    have hlength : s.trimmed.length = t.trimmed.length :=
      Nat.le_antisymm (length_trimmed_le fun n => (h n).symm) (length_trimmed_le h)
    apply List.reverse_inj.mp
    apply List.ext_getElem
    · simpa only [List.length_reverse] using hlength
    · intro n hs ht
      have hn := h n
      rw [peek_eq_getD_trimmed, peek_eq_getD_trimmed] at hn
      simpa only [List.getD_eq_getElem _ _ hs, List.getD_eq_getElem _ _ ht] using hn

namespace Equiv

variable {s t u : Stack}

theorem refl (s : Stack) : s.Equiv s := rfl

theorem symm (h : s.Equiv t) : t.Equiv s := Eq.symm h

theorem trans (h : s.Equiv t) (h' : t.Equiv u) : s.Equiv u := Eq.trans h h'

theorem peek (h : s.Equiv t) : s.peek = t.peek := funext (equiv_iff_peek.mp h)

theorem drop (h : s.Equiv t) (k : Nat) : (s.drop k).Equiv (t.drop k) := by
  rw [equiv_iff_peek]
  intro n
  rw [peek_drop, peek_drop, h.peek]

theorem push (h : s.Equiv t) (v : Int64) : (s.push v).Equiv (t.push v) := by
  rw [equiv_iff_peek]
  intro n
  cases n with
  | zero => rfl
  | succ n => rw [peek_push_succ, peek_push_succ, h.peek]

theorem pushAll (h : s.Equiv t) (values : List Int64) :
    (values.foldl Stack.push s).Equiv (values.foldl Stack.push t) := by
  induction values generalizing s t with
  | nil => exact h
  | cons v values ih => exact ih (h.push v)

/-- Putting back what was taken off leaves the stack as it was, up to zeros. -/
theorem push_peek_zero (s : Stack) : ((s.drop 1).push (s.peek 0)).Equiv s := by
  rw [equiv_iff_peek]
  intro n
  cases n with
  | zero => rfl
  | succ n => rw [peek_push_succ, peek_drop, Nat.add_comm]

end Equiv

end Stack

/-! ### Machines with equivalent stacks -/

/-- Two machines that agree on everything but zeros at the bottoms of their stacks. -/
structure Machine.SameUpToZeros (m m' : Machine) : Prop where
  stack : m.stack.Equiv m'.stack
  rest : m' = { m with stack := m'.stack }

namespace Machine.SameUpToZeros

variable {σ : Type} {m m' : Machine}

theorem of_stack {s : Stack} (h : m.stack.Equiv s) : SameUpToZeros m { m with stack := s } :=
  ⟨h, rfl⟩

theorem status (h : SameUpToZeros m m') : m'.status = m.status := by
  rw [h.rest]
  rfl

theorem answer (h : SameUpToZeros m m') : m'.answer = m.answer := by
  rw [h.rest]
  rfl

theorem fetch (h : SameUpToZeros m m') : m'.fetch = m.fetch := by
  rw [h.rest]
  rfl

/-- The machines execute the same cell, with the same effect. -/
theorem effect (h : SameUpToZeros m m') (cell : Cell) : m'.effect cell = m.effect cell := by
  simp only [Machine.effect, h.stack.peek]
  rw [h.rest]

theorem hostCall? (h : SameUpToZeros m m') : m'.hostCall? = m.hostCall? := by
  have hd : m'.due? = m.due? := due?_congr h.status fun _ => h.fetch
  simp only [Machine.hostCall?, hd, h.effect]

theorem begin (h : SameUpToZeros m m') (cell : Cell) :
    SameUpToZeros (m.begin cell) (m'.begin cell) := by
  rw [h.rest]
  exact of_stack (h.stack.drop _)

theorem failHere (h : SameUpToZeros m m') (cause : Cause) :
    SameUpToZeros (m.failHere cause) (m'.failHere cause) := by
  rw [h.rest]
  exact of_stack h.stack

theorem settle (h : SameUpToZeros m m') : SameUpToZeros m.settle m'.settle := by
  rw [h.rest]
  exact of_stack h.stack

/-- An effect treats equivalent stacks alike, also where it fails. -/
theorem apply [Host σ] (h : SameUpToZeros m m') (host : σ) (e : Effect) :
    SameUpToZeros (m.apply host e).1 (m'.apply host e).1 ∧
      (m'.apply host e).2 = (m.apply host e).2 := by
  have hhost : (m'.apply host e).2 = (m.apply host e).2 := by rw [apply_host, apply_host]
  refine ⟨?_, hhost⟩
  rw [h.rest]
  cases e with
  | push values => exact of_stack (h.stack.pushAll values)
  | store p v =>
      simp only [Machine.apply, store]
      cases m.playfield.write p (Cell.ofValue v) with
      | ok playfield => exact of_stack h.stack
      | error access => exact of_stack h.stack
  | load p =>
      simp only [Machine.apply, load]
      cases m.playfield.read p with
      | ok cell => exact of_stack (h.stack.push cell.value)
      | error access => exact of_stack h.stack
  | input format =>
      simp only [Machine.apply, receive_eq]
      cases (format.read host).1 with
      | ok v => exact of_stack (h.stack.push v)
      | error fault => exact of_stack h.stack
  | output format v =>
      simp only [Machine.apply, deliver_eq]
      cases (format.write v host).1 with
      | ok _ => exact of_stack h.stack
      | error fault => exact of_stack h.stack
  | _ => exact of_stack h.stack

theorem step [Host σ] (h : SameUpToZeros m m') (host : σ) :
    SameUpToZeros (m.step host).1 (m'.step host).1 := by
  by_cases hrun : m.status = .running
  · have hrun' : m'.status = .running := h.status.trans hrun
    cases hf : m.fetch with
    | error cause =>
        rw [step_of_fetch_error hrun hf, step_of_fetch_error hrun' (h.fetch.trans hf)]
        exact h.failHere cause
    | ok cell =>
        rw [step_of_fetch_ok hrun hf, step_of_fetch_ok hrun' (h.fetch.trans hf), h.effect]
        exact ((h.begin cell).apply host _).1.settle
  · rw [step_of_not_running hrun, step_of_not_running (h.status ▸ hrun)]
    exact h

/-- What one step keeps, every number of steps keeps, and an observer sees the same all along. -/
theorem stepN [Host σ] (h : SameUpToZeros m m') (n : Nat) (host : σ) :
    answers n m' host = answers n m host ∧ hostCalls n m' host = hostCalls n m host ∧
      (Machine.stepN n m' host).2 = (Machine.stepN n m host).2 ∧
      SameUpToZeros (Machine.stepN n m host).1 (Machine.stepN n m' host).1 := by
  induction n generalizing m m' host with
  | zero => exact ⟨rfl, rfl, rfl, h⟩
  | succ n ih =>
      have hs := h.step host
      have hhost : (m'.step host).2 = (m.step host).2 := by
        rw [step_host, step_host, h.hostCall?]
      obtain ⟨hanswers, hcalls, hafter, hsame⟩ := ih hs (m.step host).2
      refine ⟨?_, ?_, ?_, ?_⟩
      · rw [answers_succ, answers_succ, hs.answer, hhost, hanswers]
      · rw [hostCalls, hostCalls, h.hostCall?, hhost, hcalls]
      · rw [stepN_succ, stepN_succ, hhost, hafter]
      · rw [stepN_succ, stepN_succ, hhost]
        exact hsame

/-- The copy of a value is discarded again; where there was no value, a zero is left. -/
theorem duplicate_discard [Host σ] (m : Machine) (host : σ) :
    ∃ copied after, m.perform host .duplicate = (.ok (), copied, host) ∧
      copied.perform host .discard = (.ok (), after, host) ∧ SameUpToZeros m after :=
  ⟨_, _, rfl, rfl, of_stack (Stack.Equiv.push_peek_zero m.stack).symm⟩

theorem swap_swap [Host σ] (m : Machine) (host : σ) :
    ∃ swapped after, m.perform host .swap = (.ok (), swapped, host) ∧
      swapped.perform host .swap = (.ok (), after, host) ∧ SameUpToZeros m after := by
  have hlower := Stack.Equiv.push_peek_zero m.stack.rest
  have hupper := Stack.Equiv.push_peek_zero m.stack
  exact ⟨_, _, rfl, rfl, of_stack ((hlower.push m.stack.top).trans hupper).symm⟩

end Machine.SameUpToZeros

namespace Machine

variable {σ : Type} [Host σ]

/-- An empty stack cannot be told apart from any number of zeros: two machines that agree on
everything but zeros at the bottoms of their stacks give the same answers, make the same host calls,
leave the host in the same state, and go on to agree in this way. In particular, a value that is
duplicated and discarded, or two that are swapped twice, leave an equivalent stack, however few
values there are. -/
theorem stepN_sameUpToZeros {m m' : Machine} (h : m.SameUpToZeros m') (host : σ) :
    (∀ n, answers n m' host = answers n m host ∧ hostCalls n m' host = hostCalls n m host ∧
      (stepN n m' host).2 = (stepN n m host).2 ∧
      (stepN n m host).1.SameUpToZeros (stepN n m' host).1) ∧
    (∃ copied after, m.perform host .duplicate = (.ok (), copied, host) ∧
      copied.perform host .discard = (.ok (), after, host) ∧ m.SameUpToZeros after) ∧
    ∃ swapped after, m.perform host .swap = (.ok (), swapped, host) ∧
      swapped.perform host .swap = (.ok (), after, host) ∧ m.SameUpToZeros after :=
  ⟨fun n => h.stepN n host, SameUpToZeros.duplicate_discard m host, SameUpToZeros.swap_swap m host⟩

/-- A division finds no operand in one machine and two zeros in the other. -/
theorem stepN_sameUpToZeros_of_division :
    let f : Playfield := ⟨1, 1, #[.instruction .divide], by decide, by decide, rfl⟩
    let m := Machine.start f 0 none
    let m' := { m with stack := (Stack.empty.push 0).push 0 }
    m.SameUpToZeros m' ∧
      answers 1 m' (Console.ofInput [] {}) = answers 1 m (Console.ofInput [] {}) := by
  intro f m m'
  have h : m.SameUpToZeros m' := .of_stack rfl
  exact ⟨h, ((stepN_sameUpToZeros h _).1 1).1⟩

end Machine

end Funge
