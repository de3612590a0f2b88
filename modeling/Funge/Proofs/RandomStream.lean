import Funge.Proofs.Memory
import Funge.Proofs.Observation

/-!
# The stream of random directions

A machine draws its random directions one after another from a stream that its seed determines.
`Generator.directions` is that stream. Nothing but a random turn asks for the generator or changes it
(`step_withGenerator`), so it stands in the stream after as many directions as the machine has made
random turns (`generator_stepN`).

Machines with different seeds therefore do the same until they make a random turn, and go on to do so
for as long as their streams agree (`stepN_withGenerator`).
-/

namespace Funge

namespace Generator

/-- The generator after a number of directions were drawn. -/
def skip : Nat → Generator → Generator
  | 0, g => g
  | n + 1, g => skip n g.next.2

/-- The stream of a generator: the direction that is drawn after a number of others. -/
def directions (g : Generator) (n : Nat) : Direction := (g.skip n).next.1

@[simp] theorem skip_zero (g : Generator) : g.skip 0 = g := rfl

theorem skip_succ (n : Nat) (g : Generator) : g.skip (n + 1) = g.next.2.skip n := rfl

theorem next_skip (n : Nat) (g : Generator) : (g.skip n).next.2 = g.skip (n + 1) := by
  induction n generalizing g with
  | zero => rw [skip_zero, skip_succ, skip_zero]
  | succ n ih => rw [skip_succ, ih, ← skip_succ]

theorem directions_zero (g : Generator) : g.directions 0 = g.next.1 := by
  rw [directions, skip_zero]

theorem directions_succ (n : Nat) (g : Generator) :
    g.directions (n + 1) = g.next.2.directions n := by
  rw [directions, directions, skip_succ]

end Generator

/-! ### Which cells draw -/

section Effect

variable {stringMode : Bool} {operand : Nat → Int64} {drawn : Direction × Generator}

theorem Instruction.effect_drawn {i : Instruction} (h : i ≠ .random)
    (drawn' : Direction × Generator) : i.effect operand drawn' = i.effect operand drawn := by
  cases i with
  | random => exact absurd rfl h
  | _ => rfl

theorem Instruction.eq_random_of_effect {i : Instruction} {turn : Direction × Generator}
    (h : i.effect operand drawn = .turnRandomly turn) : i = .random := by
  cases i
  case divide | modulo =>
    by_cases hz : operand 0 = 0
    all_goals simp [effect, hz] at h
  all_goals first | rfl | cases h

/-- A cell turns randomly if it is the instruction to do so, outside string mode. -/
theorem Cell.eq_random_of_effect {cell : Cell} {turn : Direction × Generator}
    (h : cell.effect stringMode operand drawn = .turnRandomly turn) :
    stringMode = false ∧ cell = .instruction .random := by
  obtain ⟨values, he⟩ | ⟨i, rfl, hmode | rfl, he⟩ := cell.effect_cases stringMode operand drawn
  · rw [he] at h
    cases h
  · rw [he] at h
    obtain rfl := Instruction.eq_random_of_effect h
    exact ⟨hmode, rfl⟩
  · rw [he] at h
    cases h

/-- Any other cell has the same effect wherever the stream is. -/
theorem Cell.effect_drawn {cell : Cell} (h : ¬ (stringMode = false ∧ cell = .instruction .random))
    (drawn' : Direction × Generator) :
    cell.effect stringMode operand drawn' = cell.effect stringMode operand drawn := by
  unfold effect
  by_cases hd : cell.IsData stringMode
  · rw [if_pos hd, if_pos hd]
  · rw [if_neg hd, if_neg hd]
    cases cell with
    | instruction i =>
        refine Instruction.effect_drawn ?_ drawn'
        rintro rfl
        cases stringMode with
        | false => exact h ⟨rfl, rfl⟩
        | true => exact hd ⟨rfl, nofun⟩
    | _ => rfl

end Effect

namespace Machine

variable {σ : Type} [Host σ] {m : Machine}

/-- The machine with another generator. -/
def withGenerator (m : Machine) (g : Generator) : Machine := { m with generator := g }

/-! ### One step -/

/-- A random turn takes the next direction of the stream, and nothing else happens. -/
theorem step_of_random (h : m.CarriesOut .random) (host : σ) :
    m.step host =
      ({ m with
          direction := m.generator.directions 0
          position := m.position.next (m.generator.directions 0)
          steps := m.steps + 1
          generator := m.generator.skip 1 }, host) := by
  obtain ⟨hrun, -⟩ := fetch_of_due h.2
  have hbegin : m.begin (.instruction .random) = { m with steps := m.steps + 1 } :=
    begin_of_carriesOut h
  rw [step_of_carriesOut h, hbegin, Generator.directions_zero, Generator.skip_succ,
    Generator.skip_zero]
  -- The draw searches a long stream, so it is named before anything unfolds.
  generalize m.generator.next = drawn
  have hturn : Instruction.random.effect m.stack.peek drawn = .turnRandomly drawn := rfl
  rw [hturn, apply, settle_of_not_failed]
  · rfl
  · intro fault hf
    cases hrun.symm.trans hf

theorem generator_step_of_random (h : m.CarriesOut .random) (host : σ) :
    (m.step host).1.generator = m.generator.next.2 := by
  rw [step_of_random h, Generator.skip_succ, Generator.skip_zero]

theorem hostCall?_of_random (h : m.CarriesOut .random) : m.hostCall? = none := by
  rw [hostCall?, h.2, Option.bind_some, effect_of_carriesOut h]
  rfl

/-- Machines that draw the same direction make the same turn. -/
theorem step_withGenerator_of_random (h : m.CarriesOut .random) {g : Generator}
    (hsame : g.directions 0 = m.generator.directions 0) (host : σ) :
    (m.withGenerator g).step host =
      ((m.step host).1.withGenerator g.next.2, (m.step host).2) := by
  have hg : (m.withGenerator g).CarriesOut .random := h
  have hgenerator : (m.withGenerator g).generator = g := rfl
  rw [step_of_random h, step_of_random hg, hgenerator, hsame, Generator.skip_succ,
    Generator.skip_zero]
  rfl

/-- An effect that is no random turn does not depend on the generator, and keeps it. -/
theorem apply_withGenerator {e : Effect} (he : ∀ turn, e ≠ .turnRandomly turn) (g : Generator)
    (host : σ) :
    (m.withGenerator g).apply host e =
      ((m.apply host e).1.withGenerator g, (m.apply host e).2) := by
  cases e with
  | turnRandomly turn => exact absurd rfl (he turn)
  | store p v =>
      simp only [apply, store, withGenerator]
      cases m.playfield.write p (Cell.ofValue v) <;> rfl
  | load p =>
      simp only [apply, load, withGenerator]
      cases m.playfield.read p <;> rfl
  | input format =>
      simp only [apply, receive_eq]
      cases (format.read host).1 <;> rfl
  | output format v =>
      simp only [apply, deliver_eq]
      cases (format.write v host).1 <;> rfl
  | _ => rfl

theorem effect_withGenerator (h : ¬ m.CarriesOut .random) {cell : Cell} (hd : m.due? = some cell)
    (g : Generator) : (m.withGenerator g).effect cell = m.effect cell := by
  have hcell : ¬ (m.stringMode = false ∧ cell = .instruction .random) := by
    rintro ⟨hmode, rfl⟩
    exact h ⟨hmode, hd⟩
  rw [effect, effect]
  exact Cell.effect_drawn hcell g.next

theorem hostCall?_withGenerator (h : ¬ m.CarriesOut .random) (g : Generator) :
    (m.withGenerator g).hostCall? = m.hostCall? := by
  have hdue : (m.withGenerator g).due? = m.due? := rfl
  rw [hostCall?, hostCall?, hdue]
  refine Option.bind_congr fun cell hd => ?_
  rw [effect_withGenerator h hd]

/-- A step that is no random turn does not depend on the generator, and keeps it. -/
theorem step_withGenerator (h : ¬ m.CarriesOut .random) (g : Generator) (host : σ) :
    (m.withGenerator g).step host = ((m.step host).1.withGenerator g, (m.step host).2) := by
  obtain ⟨hrun, -, hs⟩ | ⟨hrun, -, cause, hf, hs⟩ | ⟨hrun, cell, hd, hf, hs⟩ := m.step_cases host
  · rw [hs, step_of_not_running (m := m.withGenerator g) hrun]
  · rw [hs, step_of_fetch_error (m := m.withGenerator g) hrun hf]
    rfl
  · have hbegin : (m.withGenerator g).begin cell = (m.begin cell).withGenerator g := rfl
    have heffect : ∀ turn, m.effect cell ≠ .turnRandomly turn := fun turn ht => by
      obtain ⟨hmode, rfl⟩ := Cell.eq_random_of_effect ht
      exact h ⟨hmode, hd⟩
    rw [hs, step_of_fetch_ok (m := m.withGenerator g) hrun hf, effect_withGenerator h hd, hbegin,
      apply_withGenerator heffect]
    rfl

/-- So such a step takes nothing from the stream. -/
theorem generator_step (h : ¬ m.CarriesOut .random) (host : σ) :
    (m.step host).1.generator = m.generator := by
  have hsame : m.step host = _ := step_withGenerator h m.generator host
  rw [hsame]
  rfl

/-! ### Runs -/

/-- How many of some steps are random turns. -/
def randomTurns : Nat → Machine → σ → Nat
  | 0, _, _ => 0
  | n + 1, m, host =>
    randomTurns n (m.step host).1 (m.step host).2 + if m.CarriesOut .random then 1 else 0

theorem randomTurns_succ_of_random (h : m.CarriesOut .random) (n : Nat) (host : σ) :
    randomTurns (n + 1) m host = randomTurns n (m.step host).1 (m.step host).2 + 1 := by
  rw [randomTurns, if_pos h]

theorem randomTurns_succ_of_not_random (h : ¬ m.CarriesOut .random) (n : Nat) (host : σ) :
    randomTurns (n + 1) m host = randomTurns n (m.step host).1 (m.step host).2 := by
  rw [randomTurns, if_neg h, Nat.add_zero]

theorem randomTurns_succ (n : Nat) (m : Machine) (host : σ) :
    randomTurns (n + 1) m host =
      randomTurns n m host + if (stepN n m host).1.CarriesOut .random then 1 else 0 := by
  induction n generalizing m host with
  | zero => rfl
  | succ n ih => rw [randomTurns, ih, randomTurns, stepN_succ, Nat.add_right_comm]

/-- The generator of a machine is in its stream where the random turns have brought it. -/
theorem generator_stepN (n : Nat) (m : Machine) (host : σ) :
    (stepN n m host).1.generator = m.generator.skip (randomTurns n m host) := by
  induction n generalizing m host with
  | zero => rfl
  | succ n ih =>
      rw [stepN_succ, ih]
      by_cases h : m.CarriesOut .random
      · rw [randomTurns_succ_of_random h, step_of_random h, Generator.skip_succ,
          Generator.skip_succ, Generator.skip_zero]
      · rw [randomTurns_succ_of_not_random h, generator_step h]

/-- Machines that differ in their generators do the same as long as the directions that they draw are
the same. -/
theorem stepN_withGenerator {n : Nat} {m : Machine} {g : Generator} {host : σ}
    (h : ∀ j < randomTurns n m host, g.directions j = m.generator.directions j) :
    answers n (m.withGenerator g) host = answers n m host ∧
    hostCalls n (m.withGenerator g) host = hostCalls n m host ∧
    randomTurns n (m.withGenerator g) host = randomTurns n m host ∧
    stepN n (m.withGenerator g) host =
      ((stepN n m host).1.withGenerator (g.skip (randomTurns n m host)), (stepN n m host).2) := by
  induction n generalizing m g host with
  | zero => exact ⟨rfl, rfl, rfl, rfl⟩
  | succ n ih =>
      by_cases hr : m.CarriesOut .random
      · have hrg : (m.withGenerator g).CarriesOut .random := hr
        rw [randomTurns_succ_of_random hr] at h ⊢
        have hstep := step_withGenerator_of_random hr (h 0 (Nat.succ_pos _)) host
        have hrest : ∀ j < randomTurns n (m.step host).1 (m.step host).2,
            g.next.2.directions j = (m.step host).1.generator.directions j := by
          intro j hj
          rw [generator_step_of_random hr, ← Generator.directions_succ, ← Generator.directions_succ]
          exact h (j + 1) (Nat.succ_lt_succ hj)
        obtain ⟨hanswers, hcalls, hturns, hrun⟩ := ih hrest
        refine ⟨?_, ?_, ?_, ?_⟩
        · rw [answers_succ, answers_succ, hstep, hanswers]
          rfl
        · rw [hostCalls, hostCalls, hostCall?_of_random hr, hostCall?_of_random hrg, hstep, hcalls]
        · rw [randomTurns_succ_of_random hrg, hstep, hturns]
        · rw [stepN_succ, stepN_succ, hstep, hrun, Generator.skip_succ]
      · have hrg : ¬ (m.withGenerator g).CarriesOut .random := hr
        have hstep := step_withGenerator hr g host
        rw [randomTurns_succ_of_not_random hr] at h ⊢
        have hrest : ∀ j < randomTurns n (m.step host).1 (m.step host).2,
            g.directions j = (m.step host).1.generator.directions j := by
          intro j hj
          rw [generator_step hr]
          exact h j hj
        obtain ⟨hanswers, hcalls, hturns, hrun⟩ := ih hrest
        refine ⟨?_, ?_, ?_, ?_⟩
        · rw [answers_succ, answers_succ, hstep, hanswers]
          rfl
        · rw [hostCalls, hostCalls, hostCall?_withGenerator hr, hstep, hcalls]
        · rw [randomTurns_succ_of_not_random hrg, hstep, hturns]
        · rw [stepN_succ, stepN_succ, hstep, hrun]

/-- The random turns of a machine follow one stream of directions, which the seed alone determines.
After any number of steps of a fresh machine, a random turn takes the direction of the stream whose
number is the count of the random turns before it; apart from that it moves the pointer on and is
counted, and changes nothing. Every other step leaves the stream where it is, also one that passes the
instruction as data or that executes no cell. Whatever the seeds of two machines, as long as the
directions that one of them draws are the same in the stream of the other, they give the same answers,
make the same host calls and agree on everything but the generator. -/
theorem random_turns_follow_seed (f : Playfield) (seed : UInt64) (budget : Option UInt64) (host : σ)
    (n : Nat) :
    let m := start f seed budget
    let stream := (Generator.ofSeed seed).directions
    let before := stepN n m host
    let turns := randomTurns n m host
    (before.1.CarriesOut .random →
      randomTurns (n + 1) m host = turns + 1 ∧
      stepN (n + 1) m host =
        ({ before.1 with
            direction := stream turns
            position := before.1.position.next (stream turns)
            steps := before.1.steps + 1
            generator := (Generator.ofSeed seed).skip (turns + 1) }, before.2)) ∧
    (¬ before.1.CarriesOut .random →
      randomTurns (n + 1) m host = turns ∧
      (stepN (n + 1) m host).1.generator = before.1.generator) ∧
    ∀ seed', (∀ j < turns, (Generator.ofSeed seed').directions j = stream j) →
      answers n (start f seed' budget) host = answers n m host ∧
      hostCalls n (start f seed' budget) host = hostCalls n m host ∧
      randomTurns n (start f seed' budget) host = turns ∧
      stepN n (start f seed' budget) host =
        (before.1.withGenerator ((Generator.ofSeed seed').skip turns), before.2) := by
  intro m stream before turns
  have hgenerator : before.1.generator = (Generator.ofSeed seed).skip turns :=
    generator_stepN n m host
  have hnext : stepN (n + 1) m host = before.1.step before.2 := stepN_add n 1 m host
  refine ⟨?_, ?_, ?_⟩
  · intro hr
    refine ⟨by rw [randomTurns_succ, if_pos hr], ?_⟩
    have hdirection : before.1.generator.directions 0 = stream turns := by
      rw [hgenerator, Generator.directions_zero]
      rfl
    have hskip : before.1.generator.skip 1 = (Generator.ofSeed seed).skip (turns + 1) := by
      rw [hgenerator, Generator.skip_succ, Generator.skip_zero, Generator.next_skip]
    rw [hnext, step_of_random hr, hdirection, hskip]
  · intro hr
    refine ⟨by rw [randomTurns_succ, if_neg hr, Nat.add_zero], ?_⟩
    rw [hnext, generator_step hr]
  · intro seed' hsame
    exact stepN_withGenerator (m := m) hsame

/-- The instruction draws nothing where it is data, and draws where it is carried out. -/
example :
    let f : Playfield := ⟨1, 4, #[.instruction .stringMode, .instruction .random,
      .instruction .stringMode, .instruction .random], by decide, by decide, rfl⟩
    let m := start f 0 none
    let host := Console.ofInput [] {}
    randomTurns 3 m host = 0 ∧ (stepN 3 m host).1.CarriesOut .random ∧
      randomTurns 4 m host = 1 := by
  decide

end Machine

end Funge
