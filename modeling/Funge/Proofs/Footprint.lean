import Funge.Console
import Funge.Proofs.Observation

/-!
# What a run sees of its playfield

A step fetches the cell under the instruction pointer, and an instruction can read or write one
more. These accesses are all that connects a machine to its playfield; `footprint` lists them for a
number of steps in the order in which they are made. Where a run does not write, its playfield stays
as it was (`footprint_frame`). A machine on another playfield, whatever its shape, goes through the
same run if it finds the same cells wherever the run reads a place before it writes there
(`stepN_on`).
-/

namespace Funge

variable {σ : Type} [Host σ]

/-! ### Accesses -/

/-- An access of a machine to its playfield. -/
inductive Access where
  /-- The cell to be executed is read. -/
  | fetch (position : Position)
  | get (position : Position)
  | put (position : Position)
deriving DecidableEq, Repr

namespace Access

/-- The position that is accessed. -/
def position : Access → Position
  | fetch p | get p | put p => p

/-- Of some accesses in order, one reads a position that none before it writes. -/
def ReadFirst (accesses : List Access) (p : Position) : Prop :=
  ∃ earlier access later, accesses = earlier ++ access :: later ∧
    (access = .fetch p ∨ access = .get p) ∧ .put p ∉ earlier

theorem ReadFirst.append {accesses : List Access} {p : Position} (h : ReadFirst accesses p)
    (more : List Access) : ReadFirst (accesses ++ more) p := by
  obtain ⟨earlier, access, later, rfl, hread, hput⟩ := h
  exact ⟨earlier, access, later ++ more, List.append_assoc _ _ _, hread, hput⟩

theorem ReadFirst.prepend {accesses : List Access} {p : Position} (h : ReadFirst accesses p)
    {before : List Access} (hbefore : .put p ∉ before) : ReadFirst (before ++ accesses) p := by
  obtain ⟨earlier, access, later, rfl, hread, hput⟩ := h
  refine ⟨before ++ earlier, access, later, (List.append_assoc _ _ _).symm, hread, ?_⟩
  intro hmem
  rcases List.mem_append.mp hmem with hmem | hmem
  · exact hbefore hmem
  · exact hput hmem

theorem readFirst_cons_iff {access : Access} {accesses : List Access} {p : Position} :
    ReadFirst (access :: accesses) p ↔
      (access = .fetch p ∨ access = .get p) ∨ (access ≠ .put p ∧ ReadFirst accesses p) := by
  constructor
  · rintro ⟨earlier, found, later, heq, hread, hput⟩
    cases earlier with
    | nil =>
        obtain ⟨rfl, -⟩ := List.cons.inj heq
        exact .inl hread
    | cons first earlier =>
        obtain ⟨rfl, rfl⟩ := List.cons.inj heq
        rw [List.mem_cons, not_or] at hput
        exact .inr ⟨Ne.symm hput.1, earlier, found, later, rfl, hread, hput.2⟩
  · rintro (hread | ⟨hne, h⟩)
    · exact ⟨[], access, accesses, rfl, hread, List.not_mem_nil⟩
    · have hbefore : .put p ∉ [access] := fun hmem => hne (List.mem_singleton.mp hmem).symm
      exact h.prepend hbefore

/-- The positions that are read before they are written. -/
def firstReads : List Access → List Position
  | [] => []
  | fetch p :: accesses | get p :: accesses => p :: firstReads accesses
  | put p :: accesses => (firstReads accesses).filter (· ≠ p)

theorem mem_firstReads_iff {accesses : List Access} {p : Position} :
    p ∈ firstReads accesses ↔ ReadFirst accesses p := by
  induction accesses with
  | nil =>
      refine iff_of_false List.not_mem_nil ?_
      rintro ⟨earlier, access, later, heq, -⟩
      exact List.append_ne_nil_of_right_ne_nil earlier (List.cons_ne_nil access later) heq.symm
  | cons access accesses ih =>
      rw [readFirst_cons_iff, ← ih]
      cases access with
      | fetch q => simp [firstReads, @eq_comm _ p]
      | get q => simp [firstReads, @eq_comm _ p]
      | put q => simp [firstReads, @eq_comm _ p, and_comm]

/-- Two playfields hold the same cells wherever some accesses write. -/
def WrittenAlike (accesses : List Access) (f g : Playfield) : Prop :=
  ∀ p, .put p ∈ accesses → ∃ cell, f.read p = .ok cell ∧ g.read p = .ok cell

theorem writtenAlike_nil (f g : Playfield) : WrittenAlike [] f g :=
  fun _ hp => absurd hp List.not_mem_nil

/-- Later accesses leave alike what they do not write themselves. -/
theorem WrittenAlike.append {earlier later : List Access} {f₁ g₁ f₂ g₂ : Playfield}
    (hearlier : WrittenAlike earlier f₁ g₁) (hlater : WrittenAlike later f₂ g₂)
    (hf : ∀ p, .put p ∉ later → f₂.read p = f₁.read p)
    (hg : ∀ p, .put p ∉ later → g₂.read p = g₁.read p) :
    WrittenAlike (earlier ++ later) f₂ g₂ := by
  intro p hp
  by_cases hput : .put p ∈ later
  · exact hlater p hput
  · rw [hf p hput, hg p hput]
    exact hearlier p ((List.mem_append.mp hp).resolve_right hput)

end Access

/-- The accesses that carrying an effect out makes. -/
def Effect.accesses : Effect → List Access
  | store p _ => [.put p]
  | load p => [.get p]
  | _ => []

/-- An effect reads at most once, and writes nothing before. -/
theorem Effect.readFirst_of_mem {e : Effect} {p q : Position} (h : .get p ∈ e.accesses) :
    Access.ReadFirst (.fetch q :: e.accesses) p := by
  cases e with
  | load r =>
      obtain rfl : p = r := by simpa [accesses] using h
      exact ⟨[.fetch q], .get p, [], rfl, .inr rfl, by simp⟩
  | store r v => simp [accesses] at h
  | _ => cases h

namespace Machine

open Access (ReadFirst WrittenAlike writtenAlike_nil)

/-- The accesses of a step: the cell it executes, and what the effect of the cell addresses. -/
def accesses (m : Machine) : List Access :=
  match m.due? with
  | some cell => .fetch m.position :: (m.effect cell).accesses
  | none => []

/-- The accesses of a number of steps, in order. -/
def footprint : Nat → Machine → σ → List Access
  | 0, _, _ => []
  | n + 1, m, host => m.accesses ++ footprint n (m.step host).1 (m.step host).2

theorem accesses_of_due {m : Machine} {cell : Cell} (h : m.due? = some cell) :
    m.accesses = .fetch m.position :: (m.effect cell).accesses := by
  simp only [accesses, h]

theorem accesses_of_due_none {m : Machine} (h : m.due? = none) : m.accesses = [] := by
  simp only [accesses, h]

theorem put_mem_accesses {m : Machine} {cell : Cell} (h : m.due? = some cell) {p : Position} :
    .put p ∈ m.accesses ↔ .put p ∈ (m.effect cell).accesses := by
  rw [accesses_of_due h, List.mem_cons]
  exact or_iff_right Access.noConfusion

/-! ### Where a run does not write -/

/-- Where an effect does not write, it leaves the playfield as it was. -/
theorem apply_frame {m : Machine} (host : σ) {e : Effect} {p : Position}
    (h : .put p ∉ e.accesses) :
    (m.apply host e).1.playfield.read p = m.playfield.read p := by
  obtain heq | ⟨q, v, rfl, hw⟩ := m.apply_playfield host e
  · rw [heq]
  · refine Playfield.read_write_of_ne hw ?_
    rintro rfl
    exact h List.mem_cons_self

theorem step_frame {m : Machine} (host : σ) {p : Position} (h : .put p ∉ m.accesses) :
    (m.step host).1.playfield.read p = m.playfield.read p := by
  obtain ⟨-, -, hs⟩ | ⟨-, -, cause, -, hs⟩ | ⟨-, cell, hd, -, hs⟩ := m.step_cases host
  · rw [hs]
  · rw [hs]
    rfl
  · rw [put_mem_accesses hd] at h
    rw [hs]
    exact apply_frame host h

/-- Where a run does not write, it leaves the playfield as it was. -/
theorem footprint_frame {n : Nat} {m : Machine} {host : σ} {p : Position}
    (h : .put p ∉ footprint n m host) :
    (stepN n m host).1.playfield.read p = m.playfield.read p := by
  induction n generalizing m host with
  | zero => rfl
  | succ n ih =>
      rw [footprint, List.mem_append, not_or] at h
      rw [stepN_succ, ih h.2, step_frame host h.1]

/-! ### The same machine on another playfield -/

/-- The machine with another playfield under it. -/
def on (m : Machine) (g : Playfield) : Machine := { m with playfield := g }

@[simp] theorem playfield_on (m : Machine) (g : Playfield) : (m.on g).playfield = g := rfl

@[simp] theorem status_on (m : Machine) (g : Playfield) : (m.on g).status = m.status := rfl

@[simp] theorem answer_on (m : Machine) (g : Playfield) : (m.on g).answer = m.answer := rfl

@[simp] theorem effect_on (m : Machine) (g : Playfield) (cell : Cell) :
    (m.on g).effect cell = m.effect cell := rfl

theorem settle_on (m : Machine) (g : Playfield) : (m.on g).settle = m.settle.on g := rfl

theorem begin_on (m : Machine) (g : Playfield) (cell : Cell) :
    (m.on g).begin cell = (m.begin cell).on g := rfl

theorem accesses_on {m : Machine} {g : Playfield} (h : (m.on g).due? = m.due?) :
    (m.on g).accesses = m.accesses := by
  rw [accesses, h]
  rfl

theorem hostCall?_on {m : Machine} {g : Playfield} (h : (m.on g).due? = m.due?) :
    (m.on g).hostCall? = m.hostCall? := by
  rw [hostCall?, h]
  rfl

theorem store_eq_on {m : Machine} {p : Position} {v : Int64} {f : Playfield}
    (h : m.playfield.write p (Cell.ofValue v) = .ok f) : m.store p v = m.on f := by
  simp only [store, h]
  rfl

theorem fetch_on {m : Machine} {g : Playfield}
    (h : m.exhausted? = none → g.read m.position = m.playfield.read m.position) :
    (m.on g).fetch = m.fetch := by
  have he : (m.on g).exhausted? = m.exhausted? := rfl
  rw [fetch, fetch, he]
  cases hx : m.exhausted? with
  | some limit => rfl
  | none => exact congrArg (Except.mapError Cause.outOfBounds) (h hx)

/-- A running machine that stays in bounds fetches alike if it finds the same cell. -/
theorem fetch_on_of_step {m : Machine} {g : Playfield} (host : σ) (hrun : m.status = .running)
    (hbounds : ∀ fault, (m.step host).1.status = .failed fault → fault.kind ≠ .outOfBounds)
    (halike : ∀ p, ReadFirst m.accesses p → g.read p = m.playfield.read p) :
    (m.on g).fetch = m.fetch := by
  refine fetch_on fun hroom => ?_
  cases hr : m.playfield.read m.position with
  | ok cell =>
      have hdue : m.due? = some cell := by
        rw [due?_of_running hrun, fetch_of_read_ok hroom hr]
        rfl
      rw [accesses_of_due hdue] at halike
      rw [halike m.position ⟨[], _, _, rfl, .inl rfl, List.not_mem_nil⟩, hr]
  | error access =>
      rw [step_of_fetch_error hrun (fetch_of_read_error hroom hr)] at hbounds
      exact absurd rfl (hbounds ((Cause.outOfBounds access).faultAt m.position) rfl)

/-- An effect that stays inside both playfields, and finds the same where it reads, is the same on
both. -/
theorem apply_on {m : Machine} {g : Playfield} {host : σ} {e : Effect}
    (hbounds : ∀ fault, (m.apply host e).1.status = .failed fault → fault.kind ≠ .outOfBounds)
    (hinside : ∀ access ∈ e.accesses, g.Contains access.position)
    (halike : ∀ p, .get p ∈ e.accesses → g.read p = m.playfield.read p) :
    ∃ g', (m.on g).apply host e = ((m.apply host e).1.on g', (m.apply host e).2) ∧
      (∀ p, g'.Contains p ↔ g.Contains p) ∧
      WrittenAlike e.accesses (m.apply host e).1.playfield g' := by
  cases e with
  | store p v =>
      have hg : g.Contains p := hinside (.put p) List.mem_cons_self
      obtain ⟨g', hg'⟩ := Playfield.exists_write hg (Cell.ofValue v)
      cases hf' : m.playfield.write p (Cell.ofValue v) with
      | error access =>
          refine absurd rfl (hbounds ((Cause.outOfBounds access).faultAt m.position) ?_)
          simp only [apply, store, hf']
          rfl
      | ok f' =>
          have hleft : m.store p v = m.on f' := store_eq_on hf'
          have hright : (m.on g).store p v = m.on g' := store_eq_on hg'
          refine ⟨g', ?_, Playfield.contains_write hg', ?_⟩
          · simp only [apply, hleft, hright]
            rfl
          · intro q hq
            obtain rfl : q = p := by simpa [Effect.accesses] using hq
            simp only [apply, hleft]
            exact ⟨_, Playfield.read_write_self hf', Playfield.read_write_self hg'⟩
  | load p =>
      have hsame := halike p List.mem_cons_self
      refine ⟨g, ?_, fun _ => Iff.rfl, ?_⟩
      · simp only [apply, load, playfield_on, hsame]
        cases m.playfield.read p <;> rfl
      · intro q hq
        simp [Effect.accesses] at hq
  | input format =>
      refine ⟨g, ?_, fun _ => Iff.rfl, writtenAlike_nil _ _⟩
      simp only [apply, receive_eq]
      cases (format.read host).1 <;> rfl
  | output format v =>
      refine ⟨g, ?_, fun _ => Iff.rfl, writtenAlike_nil _ _⟩
      simp only [apply, deliver_eq]
      cases (format.write v host).1 <;> rfl
  | _ => exact ⟨g, rfl, fun _ => Iff.rfl, writtenAlike_nil _ _⟩

/-- One step of `stepN_on`. -/
theorem step_on {m : Machine} {g : Playfield} (host : σ)
    (hbounds : ∀ fault, (m.step host).1.status = .failed fault → fault.kind ≠ .outOfBounds)
    (hinside : ∀ access ∈ m.accesses, g.Contains access.position)
    (halike : ∀ p, ReadFirst m.accesses p → g.read p = m.playfield.read p) :
    ∃ g', (m.on g).step host = ((m.step host).1.on g', (m.step host).2) ∧
      (m.on g).due? = m.due? ∧ (∀ p, g'.Contains p ↔ g.Contains p) ∧
      WrittenAlike m.accesses (m.step host).1.playfield g' := by
  have hfetch : m.status = .running → (m.on g).fetch = m.fetch :=
    fun hrun => fetch_on_of_step host hrun hbounds halike
  have hdue : (m.on g).due? = m.due? := due?_congr (status_on m g) hfetch
  obtain ⟨hrun, hd, hs⟩ | ⟨hrun, hd, cause, hf, hs⟩ | ⟨hrun, cell, hd, hf, hs⟩ :=
    m.step_cases host
  · refine ⟨g, ?_, hdue, fun _ => Iff.rfl, ?_⟩
    · rw [hs, step_of_not_running (m := m.on g) hrun]
    · rw [accesses_of_due_none hd]
      exact writtenAlike_nil _ _
  · refine ⟨g, ?_, hdue, fun _ => Iff.rfl, ?_⟩
    · rw [hs, step_of_fetch_error (m := m.on g) hrun ((hfetch hrun).trans hf)]
      rfl
    · rw [accesses_of_due_none hd]
      exact writtenAlike_nil _ _
  · rw [accesses_of_due hd] at hinside halike
    rw [hs, status_settle] at hbounds
    obtain ⟨g', happly, hcontains, hwritten⟩ :=
      apply_on (m := m.begin cell) (g := g) (e := m.effect cell) hbounds
        (fun access ha => hinside access (List.mem_cons_of_mem _ ha))
        (fun p hp => halike p (Effect.readFirst_of_mem hp))
    refine ⟨g', ?_, hdue, hcontains, ?_⟩
    · rw [step_of_fetch_ok (m := m.on g) hrun ((hfetch hrun).trans hf), effect_on, begin_on, happly,
        settle_on, hs]
    · intro p hp
      rw [hs]
      exact hwritten p ((put_mem_accesses hd).mp hp)

theorem read_eq_of_stepN_on {n : Nat} {m m' : Machine} {g g' : Playfield} {host host' : σ}
    {p : Position} (hrun : stepN n (m.on g) host = (m'.on g', host'))
    (hp : .put p ∉ footprint n (m.on g) host) : g'.read p = g.read p := by
  have hread := footprint_frame hp
  rw [hrun] at hread
  exact hread

/-- A machine on another playfield goes through the same run, if none of its accesses is out of
bounds on either playfield and the playfields hold the same cells wherever the run reads a place
before it writes there. -/
theorem stepN_on {n : Nat} {m : Machine} {g : Playfield} {host : σ}
    (hbounds : ∀ fault, .error fault ∈ answers n m host → fault.kind ≠ .outOfBounds)
    (hinside : ∀ access ∈ footprint n m host, g.Contains access.position)
    (halike : ∀ p, ReadFirst (footprint n m host) p → g.read p = m.playfield.read p) :
    answers n (m.on g) host = answers n m host ∧
    hostCalls n (m.on g) host = hostCalls n m host ∧
    footprint n (m.on g) host = footprint n m host ∧
    ∃ g', stepN n (m.on g) host = ((stepN n m host).1.on g', (stepN n m host).2) ∧
      WrittenAlike (footprint n m host) (stepN n m host).1.playfield g' := by
  induction n generalizing m g host with
  | zero => exact ⟨rfl, rfl, rfl, g, rfl, writtenAlike_nil _ _⟩
  | succ n ih =>
      rw [footprint] at hinside halike
      obtain ⟨g₁, hstep, hd, hcontains, hwritten⟩ :=
        step_on (m := m) (g := g) host
          (fun fault hf => hbounds fault (by simp [answers_succ, answer_of_failed hf]))
          (fun access ha => hinside access (List.mem_append_left _ ha))
          (fun p hp => halike p (hp.append _))
      have hframe : ∀ p, .put p ∉ m.accesses → g₁.read p = g.read p := by
        intro p hp
        rw [← accesses_on hd] at hp
        have hread := step_frame host hp
        rw [hstep] at hread
        exact hread
      obtain ⟨ha, hc, hfp, g', hrun, hlater⟩ :=
        ih (m := (m.step host).1) (g := g₁)
          (fun fault hf => hbounds fault (by simp [answers_succ, hf]))
          (fun access ha => (hcontains _).mpr (hinside access (List.mem_append_right _ ha)))
          (fun p hp => by
            by_cases hput : .put p ∈ m.accesses
            · obtain ⟨cell, hleft, hright⟩ := hwritten p hput
              rw [hleft, hright]
            · rw [hframe p hput, step_frame host hput]
              exact halike p (hp.prepend hput))
      refine ⟨?_, ?_, ?_, g', ?_, ?_⟩
      · rw [answers_succ, answers_succ, hstep, answer_on, ha]
      · rw [hostCalls, hostCalls, hostCall?_on hd, hstep, hc]
      · rw [footprint, footprint, accesses_on hd, hstep, hfp]
      · rw [stepN_succ, stepN_succ, hstep, hrun]
      · refine hwritten.append hlater (fun p hp => footprint_frame hp) fun p hp => ?_
        rw [← hfp] at hp
        exact read_eq_of_stepN_on hrun hp

/-- A run depends on its playfield only through the cells that it reads before it writes them. On
any other playfield that has these cells and contains every position the run accesses, the same
steps give the same answers, make the same host calls, and lead to the same machine, the playfield
aside. The two playfields then hold the same cells wherever the run wrote, and are as they were
everywhere else. -/
theorem stepN_determined_by_footprint {n : Nat} {m : Machine} {g : Playfield} {host : σ}
    (hbounds : ∀ fault, .error fault ∈ answers n m host → fault.kind ≠ .outOfBounds)
    (hinside : ∀ access ∈ footprint n m host, g.Contains access.position)
    (halike : ∀ p, ReadFirst (footprint n m host) p → g.read p = m.playfield.read p) :
    answers n (m.on g) host = answers n m host ∧
    hostCalls n (m.on g) host = hostCalls n m host ∧
    ∃ g', stepN n (m.on g) host = ((stepN n m host).1.on g', (stepN n m host).2) ∧
      (∀ p, .put p ∈ footprint n m host →
        ∃ cell, (stepN n m host).1.playfield.read p = .ok cell ∧ g'.read p = .ok cell) ∧
      ∀ p, .put p ∉ footprint n m host →
        (stepN n m host).1.playfield.read p = m.playfield.read p ∧ g'.read p = g.read p := by
  obtain ⟨ha, hc, hfp, g', hrun, hwritten⟩ := stepN_on hbounds hinside halike
  refine ⟨ha, hc, g', hrun, hwritten, fun p hp => ⟨footprint_frame hp, ?_⟩⟩
  rw [← hfp] at hp
  exact read_eq_of_stepN_on hrun hp

/-- A program that writes to the cell behind its end before it reads there runs alike on playfields
that differ in that cell and in their height. -/
theorem stepN_determined_by_footprint_of_scratch :
    let program : List Cell :=
      [.digit 5, .instruction .put, .digit 5, .instruction .get, .instruction .halt]
    let f : Playfield := ⟨1, 6, (program ++ [Cell.blank]).toArray, by decide, by decide, rfl⟩
    let g : Playfield := ⟨2, 6, (program ++ List.replicate 7 (Cell.other 1)).toArray,
      by decide, by decide, rfl⟩
    let m := Machine.start f 0 none
    let host := Console.ofInput [] {}
    f.read ⟨0, 5⟩ = .ok .blank ∧ g.read ⟨0, 5⟩ = .ok (.other 1) ∧
      .put ⟨0, 5⟩ ∈ footprint 5 m host ∧ .get ⟨0, 5⟩ ∈ footprint 5 m host ∧
      answers 5 (m.on g) host = answers 5 m host := by
  intro program f g m host
  have hanswers : answers 5 m host = List.replicate 4 (.ok .running) ++ [.ok .halted] := by decide
  have hreads : Access.firstReads (footprint 5 m host) =
      [⟨0, 0⟩, ⟨0, 1⟩, ⟨0, 2⟩, ⟨0, 3⟩, ⟨0, 4⟩] := by decide
  have hbounds : ∀ fault, .error fault ∈ answers 5 m host → fault.kind ≠ .outOfBounds := by
    intro fault hf
    simp [hanswers] at hf
  have halike : ∀ p, ReadFirst (footprint 5 m host) p → g.read p = m.playfield.read p := by
    intro p hp
    rw [← Access.mem_firstReads_iff, hreads] at hp
    simp only [List.mem_cons, List.not_mem_nil, or_false] at hp
    rcases hp with rfl | rfl | rfl | rfl | rfl <;> rfl
  exact ⟨rfl, rfl, by decide, by decide,
    (stepN_determined_by_footprint hbounds (by decide) halike).1⟩

end Machine

end Funge
