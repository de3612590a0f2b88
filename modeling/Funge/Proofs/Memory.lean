import Funge.Console
import Funge.Proofs.Effect
import Funge.Proofs.Reachable

/-!
# The playfield as memory

A program stores values in its playfield and fetches them, and its own cells are where it does so.
`stores` is the history of a run: every value that was stored, and where. The playfield of a running
program is the one it started on with this history on top (`read_stepN`): at each position lies the
cell of the value stored there last, or the cell that was there at the start. A fetch gives that very
value, whatever it is, since the cell of a value stands for it.
-/

namespace Funge.Machine

variable {σ : Type} [Host σ] {m : Machine}

/-! ### Loads and stores -/

/-- The next step carries an instruction out. In string mode a step carries none out. -/
def CarriesOut (m : Machine) (i : Instruction) : Prop :=
  m.stringMode = false ∧ m.due? = some (.instruction i)

instance (m : Machine) (i : Instruction) : Decidable (m.CarriesOut i) :=
  inferInstanceAs (Decidable (_ ∧ _))

/-- The position that a load or a store addresses: the column is on top of the stack, and below it
the row. -/
def addressed (m : Machine) : Position := ⟨(m.stack.peek 1).toInt, (m.stack.peek 0).toInt⟩

/-- What the next step stores and where, if it carries out a store inside the playfield. The value is
the third one from the top of the stack. -/
def stored? (m : Machine) : Option (Position × Int64) :=
  if m.CarriesOut .put ∧ m.playfield.Contains m.addressed then some (m.addressed, m.stack.peek 2)
  else none

/-- What a number of steps store and where, the most recent first. -/
def stores : Nat → Machine → σ → List (Position × Int64)
  | 0, _, _ => []
  | n + 1, m, host => stores n (m.step host).1 (m.step host).2 ++ m.stored?.toList

/-- The value that a number of steps store last at a position, if they store any there. -/
def lastStored? (n : Nat) (m : Machine) (host : σ) (q : Position) : Option Int64 :=
  (stores n m host).lookup q

theorem effect_of_carriesOut {i : Instruction} (h : m.CarriesOut i) :
    m.effect (.instruction i) = i.effect m.stack.peek m.generator.next := by
  rw [effect, Cell.effect, h.1]
  exact if_neg fun hd => nomatch hd.1

/-- The only effect that stores is that of the instruction to store. -/
theorem carriesOut_put_of_effect {cell : Cell} {p : Position} {v : Int64}
    (hdue : m.due? = some cell) (h : m.effect cell = .store p v) :
    m.CarriesOut .put ∧ p = m.addressed ∧ v = m.stack.peek 2 := by
  have hkind : (m.effect cell).faultKind? = some .outOfBounds := by rw [h]; rfl
  obtain ⟨hmode, i, hmem, rfl⟩ := Cell.exists_culprit hkind
  have hcarries : m.CarriesOut i := ⟨hmode, hdue⟩
  rw [effect_of_carriesOut hcarries] at h
  rcases List.mem_cons.mp hmem with rfl | hmem
  · obtain ⟨rfl, rfl⟩ := Effect.store.inj h
    exact ⟨hcarries, rfl, rfl⟩
  · obtain rfl := List.mem_singleton.mp hmem
    cases h

theorem step_of_carriesOut {i : Instruction} (h : m.CarriesOut i) (host : σ) :
    m.step host =
      (((m.begin (.instruction i)).apply host (i.effect m.stack.peek m.generator.next)).1.settle,
        ((m.begin (.instruction i)).apply host (i.effect m.stack.peek m.generator.next)).2) := by
  obtain ⟨hrun, hf⟩ := fetch_of_due h.2
  rw [step_of_fetch_ok hrun hf, effect_of_carriesOut h]

theorem begin_of_carriesOut {i : Instruction} (h : m.CarriesOut i) :
    m.begin (.instruction i) =
      { m with steps := m.steps + 1, stack := m.stack.drop i.arity } := by
  rw [begin, Cell.arity, h.1]
  rfl

/-- A step that stores makes one write. -/
theorem write_of_stored {p : Position} {v : Int64} (h : m.stored? = some (p, v)) (host : σ) :
    m.playfield.write p (Cell.ofValue v) = .ok (m.step host).1.playfield := by
  rw [stored?] at h
  split at h
  · next hput =>
    obtain ⟨hcarries, hinside⟩ := hput
    obtain ⟨rfl, rfl⟩ := Prod.mk.inj (Option.some.inj h)
    obtain ⟨g, hw⟩ := Playfield.exists_write hinside (Cell.ofValue (m.stack.peek 2))
    rw [step_of_carriesOut hcarries host, hw]
    have hwrite : (m.begin (.instruction .put)).playfield.write m.addressed
        (Cell.ofValue (m.stack.peek 2)) = .ok g := hw
    have hstore : (m.begin (.instruction .put)).store m.addressed (m.stack.peek 2) =
        { m.begin (.instruction .put) with playfield := g } := by
      rw [store, hwrite]
    change _ = Except.ok
      ((m.begin (.instruction .put)).store m.addressed (m.stack.peek 2)).playfield
    rw [hstore]
  · cases h

/-- A step that does not store leaves the playfield as it is. -/
theorem playfield_of_not_stored (h : m.stored? = none) (host : σ) :
    (m.step host).1.playfield = m.playfield := by
  cases hdue : m.due? with
  | none =>
      obtain ⟨state, error, hs⟩ := step_of_due_none hdue host
      rw [hs]
  | some cell =>
      obtain ⟨hrun, hf⟩ := fetch_of_due hdue
      rw [step_of_fetch_ok hrun hf]
      obtain heq | ⟨p, v, heffect, hw⟩ := (m.begin cell).apply_playfield host (m.effect cell)
      · exact heq
      · obtain ⟨hcarries, rfl, rfl⟩ := carriesOut_put_of_effect hdue heffect
        have hinside := (Playfield.of_write_eq_ok hw).1
        rw [stored?, if_pos ⟨hcarries, hinside⟩] at h
        cases h

/-- A load inside the playfield puts the value of the cell in place of its two operands. -/
theorem stack_of_get (h : m.CarriesOut .get) {cell : Cell}
    (hread : m.playfield.read m.addressed = .ok cell) (host : σ) :
    (m.step host).1.stack = (m.stack.drop 2).push cell.value := by
  have hcell : (m.begin (.instruction .get)).playfield.read m.addressed = .ok cell := hread
  have hload : (m.begin (.instruction .get)).load m.addressed =
      (m.begin (.instruction .get)).push cell.value := by
    rw [load, hcell]
  rw [step_of_carriesOut h host]
  change ((m.begin (.instruction .get)).load m.addressed).stack = _
  rw [hload]
  change ((m.stack.drop (Cell.arity m.stringMode (.instruction .get))).push cell.value) = _
  rw [h.1]
  rfl

/-! ### Histories -/

/-- What is found at a position, by the last value stored there or else by what was there before. -/
def recalled (before : Except OutOfBounds Cell) : Option Int64 → Except OutOfBounds Cell
  | some v => .ok (Cell.ofValue v)
  | none => before

theorem read_step (m : Machine) (host : σ) (q : Position) :
    (m.step host).1.playfield.read q =
      recalled (m.playfield.read q) (m.stored?.toList.lookup q) := by
  cases hs : m.stored? with
  | none =>
      rw [playfield_of_not_stored hs]
      rfl
  | some stored =>
      obtain ⟨p, v⟩ := stored
      rw [Playfield.read_write (write_of_stored hs host), Option.toList_some, List.lookup_cons]
      by_cases hq : q = p
      · rw [if_pos hq, beq_iff_eq.mpr hq]
        rfl
      · rw [if_neg hq, beq_eq_false_iff_ne.mpr hq]
        rfl

/-- The playfield after some steps holds the values that were stored last, on top of what was there
before. -/
theorem read_stepN (n : Nat) (m : Machine) (host : σ) (q : Position) :
    (stepN n m host).1.playfield.read q =
      recalled (m.playfield.read q) (lastStored? n m host q) := by
  induction n generalizing m host with
  | zero => rfl
  | succ n ih =>
      rw [stepN_succ, ih, read_step, lastStored?, lastStored?, stores, List.lookup_append]
      cases (stores n (m.step host).1 (m.step host).2).lookup q <;> rfl

/-- Nothing that is done with a machine changes the shape of its playfield. -/
theorem Reachable.shape {m₀ : Machine} {host₀ host : σ} (h : Reachable m₀ host₀ m host) :
    m.playfield.height = m₀.playfield.height ∧ m.playfield.width = m₀.playfield.width := by
  refine h.invariant (P := fun m => m.playfield.height = m₀.playfield.height ∧
    m.playfield.width = m₀.playfield.width) ⟨rfl, rfl⟩ ?_
  intro m host hm
  obtain ⟨hheight, hwidth⟩ := m.shape_step host
  exact ⟨hheight.trans hm.1, hwidth.trans hm.2⟩

/-- The playfield is a consistent memory over whole runs, whatever program modifies itself in it. It
keeps its shape. At each position lies the cell of the value that was stored there last, or the cell
of the start where nothing was stored, and a load pushes that very value, or the value of the cell of
the start. Nothing but a store inside the playfield, outside string mode, changes it. -/
theorem memory_consistent_of_reachable {f : Playfield} {seed : UInt64} {budget : Option UInt64}
    {m : Machine} {host₀ host : σ} (h : Reachable (start f seed budget) host₀ m host) :
    let first := start f seed budget
    (∃ n, stepN n first host₀ = (m, host)) ∧
    ∀ n, stepN n first host₀ = (m, host) →
      (m.playfield.height = f.height ∧ m.playfield.width = f.width) ∧
      (∀ q v, lastStored? n first host₀ q = some v → m.playfield.read q = .ok (Cell.ofValue v)) ∧
      (∀ q, lastStored? n first host₀ q = none → m.playfield.read q = f.read q) ∧
      (m.CarriesOut .get → m.playfield.Contains m.addressed →
        (∀ v, lastStored? n first host₀ m.addressed = some v →
          (m.step host).1.stack = (m.stack.drop 2).push v) ∧
        (lastStored? n first host₀ m.addressed = none → ∀ cell, f.read m.addressed = .ok cell →
          (m.step host).1.stack = (m.stack.drop 2).push cell.value)) ∧
      (¬ (m.CarriesOut .put ∧ m.playfield.Contains m.addressed) →
        (m.step host).1.playfield = m.playfield) := by
  intro first
  refine ⟨h.exists_stepN, ?_⟩
  intro n hn
  have hread : ∀ q, m.playfield.read q = recalled (f.read q) (lastStored? n first host₀ q) := by
    intro q
    have hq := read_stepN n first host₀ q
    rwa [hn] at hq
  have hstored : ∀ q v, lastStored? n first host₀ q = some v →
      m.playfield.read q = .ok (Cell.ofValue v) := by
    intro q v hv
    rw [hread, hv]
    rfl
  have huntouched : ∀ q, lastStored? n first host₀ q = none → m.playfield.read q = f.read q := by
    intro q hnone
    rw [hread, hnone]
    rfl
  refine ⟨h.shape, hstored, huntouched, ?_, ?_⟩
  · intro hget hinside
    refine ⟨?_, ?_⟩
    · intro v hv
      rw [stack_of_get hget (hstored _ v hv), Cell.value_ofValue]
    · intro hnone cell hcell
      exact stack_of_get hget ((huntouched _ hnone).trans hcell) host
  · intro hput
    exact playfield_of_not_stored (if_neg hput) host

/-- A program stores a negative number over its own first cell and fetches it again, while a cell
with the code point of an instruction, which no text contains, stays what it was. -/
theorem memory_consistent_of_negative :
    let f : Playfield := ⟨1, 10, #[.digit 0, .digit 1, .instruction .subtract, .digit 0, .digit 0,
      .instruction .put, .digit 0, .digit 0, .instruction .get, .other 43],
      by decide, by decide, rfl⟩
    let start := start f 0 none
    let console := Console.ofInput [] {}
    let m := (stepN 8 start console).1
    let host := (stepN 8 start console).2
    Reachable start console m host ∧ lastStored? 8 start console ⟨0, 0⟩ = some (-1) ∧
      lastStored? 8 start console ⟨0, 9⟩ = none ∧ m.CarriesOut .get ∧
      m.playfield.read ⟨0, 0⟩ = .ok (.other (-1)) ∧ m.playfield.read ⟨0, 9⟩ = .ok (.other 43) ∧
      (m.step host).1.stack.top = -1 := by
  intro f start console m host
  have hreach : Reachable start console m host := .of_stepN 8 start console
  have hrun : stepN 8 start console = (m, host) := (Prod.eta _).symm
  have hstored : lastStored? 8 start console ⟨0, 0⟩ = some (-1) := by decide
  have hkept : lastStored? 8 start console ⟨0, 9⟩ = none := by decide
  have hget : m.CarriesOut .get := by decide
  have hinside : m.playfield.Contains m.addressed := by decide
  have haddressed : m.addressed = ⟨0, 0⟩ := by decide
  have hvalue : Cell.ofValue (-1) = .other (-1) := by decide
  have hsign : f.read ⟨0, 9⟩ = .ok (.other 43) := rfl
  obtain ⟨-, hfacts⟩ := memory_consistent_of_reachable hreach
  obtain ⟨-, hcells, huntouched, hload, -⟩ := hfacts 8 hrun
  refine ⟨hreach, hstored, hkept, hget, ?_, ?_, ?_⟩
  · rw [hcells _ _ hstored, hvalue]
  · rw [huntouched _ hkept, hsign]
  · rw [(hload hget hinside).1 (-1) (haddressed ▸ hstored), Stack.top_push]

end Funge.Machine
