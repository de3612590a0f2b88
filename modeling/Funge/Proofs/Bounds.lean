import Mathlib.Algebra.Group.Nat.Defs
import Funge.Console
import Funge.Proofs.Effect
import Funge.Proofs.Reachable

/-!
# Machine words suffice

Positions are pairs of integers here, places in the playfield and counts are natural numbers. On a
playfield that fits into memory, 64-bit words do as well. The instruction pointer is never further
out than two cells beyond the edge it has left (`Tracked`), because a step moves it at most twice and
does not take place outside. The place of a cell, computed with words, is its place in the array,
and the addresses that are refused are the same (`toNat_index?`). The count of cells stays below the
budget, and fits a word where there is one. Without a budget a word holds the count for the first
2^64 - 1 cells, and a run is described here as far as that; the count is a natural number and goes on.
-/

namespace Funge

/-! ### Positions near the playfield -/

/-- A number is the value of a signed machine word. -/
def FitsWord (i : Int) : Prop := Int64.minValue.toInt ≤ i ∧ i ≤ Int64.maxValue.toInt

/-- The coordinates of a position are machine words. -/
def Position.FitsWords (p : Position) : Prop := FitsWord p.row ∧ FitsWord p.col

namespace Playfield

/-- A position is off the rectangle on the side of a direction: by at most two cells, and on no other
side. -/
def Beyond (f : Playfield) (p : Position) : Direction → Prop
  | .up => (p.row = -1 ∨ p.row = -2) ∧ 0 ≤ p.col ∧ p.col < f.width
  | .down => (p.row = f.height ∨ p.row = f.height + 1) ∧ 0 ≤ p.col ∧ p.col < f.width
  | .left => (p.col = -1 ∨ p.col = -2) ∧ 0 ≤ p.row ∧ p.row < f.height
  | .right => (p.col = f.width ∨ p.col = f.width + 1) ∧ 0 ≤ p.row ∧ p.row < f.height

/-- Where an instruction pointer can be that heads in a direction. -/
def Within (f : Playfield) (p : Position) (d : Direction) : Prop := f.Contains p ∨ f.Beyond p d

variable {f : Playfield} {p : Position}

theorem within_next (h : f.Contains p) (d : Direction) : f.Within (p.next d) d := by
  obtain ⟨hrow, hrow', hcol, hcol'⟩ := h
  cases d
  all_goals
    simp only [Within, Contains, Beyond, Position.next]
    omega

theorem within_next_next (h : f.Contains p) (d : Direction) :
    f.Within ((p.next d).next d) d := by
  obtain ⟨hrow, hrow', hcol, hcol'⟩ := h
  cases d
  all_goals
    simp only [Within, Contains, Beyond, Position.next]
    omega

theorem height_le_size (f : Playfield) : f.height ≤ f.height * f.width :=
  Nat.le_mul_of_pos_right _ f.width_pos

theorem width_le_size (f : Playfield) : f.width ≤ f.height * f.width :=
  Nat.le_mul_of_pos_left _ f.height_pos

/-- A pointer near a playfield that fits into memory has machine words as its coordinates. -/
theorem fitsWords_of_within {d : Direction} (hsize : f.height * f.width ≤ 2 ^ 62)
    (h : f.Within p d) : p.FitsWords := by
  have hheight := f.height_le_size
  have hwidth := f.width_le_size
  have hmin : Int64.minValue.toInt = -2 ^ 63 := rfl
  have hmax : Int64.maxValue.toInt = 2 ^ 63 - 1 := rfl
  simp only [Position.FitsWords, FitsWord, hmin, hmax]
  rcases h with ⟨hrow, hrow', hcol, hcol'⟩ | h
  · omega
  · cases d
    all_goals
      simp only [Beyond] at h
      omega

/-! ### Places computed with words -/

/-- Where a position's cell lies in the array, computed with machine words that wrap around; `none`
if one of the coordinates is refused. -/
def index? (f : Playfield) (row col : Int64) : Option UInt64 :=
  if (0 ≤ row ∧ row < Int64.ofNat f.height) ∧ 0 ≤ col ∧ col < Int64.ofNat f.width then
    some (row.toUInt64 * UInt64.ofNat f.width + col.toUInt64)
  else none

theorem lt_ofNat_iff {n : Nat} (h : n ≤ 2 ^ 62) (v : Int64) :
    v < Int64.ofNat n ↔ v.toInt < n := by
  rw [Int64.lt_iff_toInt_lt, Int64.toInt_ofNat_of_lt (by omega)]

theorem zero_le_iff (v : Int64) : 0 ≤ v ↔ 0 ≤ v.toInt := by
  rw [Int64.le_iff_toInt_le]
  rfl

/-- Words refuse the positions that are outside, and find the place of every other one. -/
theorem toNat_index? (hsize : f.height * f.width ≤ 2 ^ 62) (row col : Int64) :
    (f.index? row col).map UInt64.toNat =
      if f.Contains ⟨row.toInt, col.toInt⟩ then some (f.offset ⟨row.toInt, col.toInt⟩)
      else none := by
  have hheight := f.height_le_size
  have hwidth := f.width_le_size
  have htest : ((0 ≤ row ∧ row < Int64.ofNat f.height) ∧ 0 ≤ col ∧ col < Int64.ofNat f.width) ↔
      f.Contains ⟨row.toInt, col.toInt⟩ := by
    rw [zero_le_iff, zero_le_iff, lt_ofNat_iff (by omega), lt_ofNat_iff (by omega), and_assoc]
    rfl
  rw [index?]
  by_cases hp : f.Contains ⟨row.toInt, col.toInt⟩
  · have hplace := offset_lt hp
    rw [f.size_eq] at hplace
    obtain ⟨hrow, hcol⟩ := htest.mpr hp
    have hwide : (UInt64.ofNat f.width).toNat = f.width :=
      UInt64.toNat_ofNat_of_lt' (by rw [UInt64.size]; omega)
    have hr : row.toUInt64.toNat = row.toInt.toNat := Int64.toNat_toUInt64_of_le hrow.1
    have hc : col.toUInt64.toNat = col.toInt.toNat := Int64.toNat_toUInt64_of_le hcol.1
    simp only [offset] at hplace ⊢
    have hstart : row.toInt.toNat * f.width < 2 ^ 64 := by omega
    rw [if_pos (htest.mpr hp), if_pos hp, Option.map_some, UInt64.toNat_add, UInt64.toNat_mul, hwide,
      hr, hc, Nat.mod_eq_of_lt hstart, Nat.mod_eq_of_lt (by omega)]
  · rw [if_neg (mt htest.mp hp), if_neg hp]
    rfl

theorem index?_eq_none_iff (hsize : f.height * f.width ≤ 2 ^ 62) {row col : Int64} :
    f.index? row col = none ↔ ¬ f.Contains ⟨row.toInt, col.toInt⟩ := by
  rw [← Option.map_eq_none_iff (f := UInt64.toNat), toNat_index? hsize]
  split
  · next hp => simp [hp]
  · next hp => simp [hp]

/-- Words compute no place outside the array. -/
theorem of_index?_eq_some (hsize : f.height * f.width ≤ 2 ^ 62) {row col : Int64} {i : UInt64}
    (h : f.index? row col = some i) :
    i.toNat = f.offset ⟨row.toInt, col.toInt⟩ ∧ i.toNat < f.cells.size := by
  have hplace := f.toNat_index? hsize row col
  rw [h, Option.map_some] at hplace
  split at hplace
  · next hp =>
    have heq := Option.some.inj hplace
    exact ⟨heq, heq ▸ offset_lt hp⟩
  · cases hplace

end Playfield

/-! ### Where the instruction pointer goes -/

namespace Machine

variable {σ : Type} [Host σ] {m : Machine} {f : Playfield} {host : σ}

/-- The machines whose instruction pointer a step advances, in order: a bridge advances it once more
than other cells, and a cell that fails not at all. -/
def advancing (m : Machine) (host : σ) : List Machine :=
  match m.due? with
  | none => []
  | some cell =>
    let after := ((m.begin cell).apply host (m.effect cell)).1
    (if m.effect cell = .skip then [m.begin cell] else []) ++
      match after.status with
      | .failed _ => []
      | .running | .halted => [after]

/-- Only a skip moves the instruction pointer while an effect is carried out. -/
theorem position_apply (m : Machine) (host : σ) (e : Effect) :
    (m.apply host e).1.position = m.position ∨ e = .skip := by
  obtain ⟨cause, -, h⟩ | ⟨-, h⟩ | ⟨p, v, g, -, -, h⟩ | ⟨s, p, d, b, g, hp, h⟩ :=
    m.apply_cases host e
  · rw [h]
    exact .inl rfl
  · rw [h]
    exact .inl rfl
  · rw [h]
    exact .inl rfl
  · rw [h]
    exact hp

/-- A step that executes a cell ends with the last advance of the instruction pointer, or fails where
it is. -/
theorem step_eq_advance {cell : Cell} (hdue : m.due? = some cell) (host : σ) :
    (m.step host).1.position = m.position ∨ ∃ a ∈ m.advancing host, (m.step host).1 = a.advance := by
  obtain ⟨hrun, hf⟩ := fetch_of_due hdue
  rw [step_of_fetch_ok hrun hf host, advancing]
  simp only [hdue]
  cases hstatus : ((m.begin cell).apply host (m.effect cell)).1.status with
  | failed fault =>
      obtain ⟨-, -, i, -, -, hsettle⟩ := exists_culprit_of_failed hrun hstatus
      rw [hsettle]
      exact .inl rfl
  | running =>
      rw [settle_of_not_failed (by simp [hstatus])]
      exact .inr ⟨_, List.mem_append_right _ List.mem_cons_self, rfl⟩
  | halted =>
      rw [settle_of_not_failed (by simp [hstatus])]
      exact .inr ⟨_, List.mem_append_right _ List.mem_cons_self, rfl⟩

/-- A machine on a playfield of the shape of another one, with its instruction pointer on it or just
beyond the edge it is heading for. -/
structure Tracked (f : Playfield) (m : Machine) : Prop where
  height : m.playfield.height = f.height
  width : m.playfield.width = f.width
  within : f.Within m.position m.direction

namespace Tracked

theorem start (f : Playfield) (seed : UInt64) (budget : Option UInt64) :
    Tracked f (Machine.start f seed budget) where
  height := rfl
  width := rfl
  within := by
    have hheight := f.height_pos
    have hwidth := f.width_pos
    refine .inl ⟨Int.le_refl 0, ?_, Int.le_refl 0, ?_⟩
    · exact Int.natCast_pos.mpr hheight
    · exact Int.natCast_pos.mpr hwidth

theorem contains_iff (h : Tracked f m) (p : Position) : m.playfield.Contains p ↔ f.Contains p := by
  rw [Playfield.Contains, h.height, h.width]
  rfl

theorem within_iff (h : Tracked f m) (p : Position) (d : Direction) :
    m.playfield.Within p d ↔ f.Within p d := by
  rw [Playfield.Within, Playfield.Within, h.contains_iff]
  cases d
  all_goals simp only [Playfield.Beyond, h.height, h.width]

/-- A machine that executes a cell stands on the playfield. -/
theorem contains_of_due (h : Tracked f m) {cell : Cell} (hdue : m.due? = some cell) :
    f.Contains m.position := by
  obtain ⟨-, hread⟩ := read_of_fetch_ok (fetch_of_due hdue).2
  exact (h.contains_iff _).mp (Playfield.contains_of_read hread)

/-- An advance starts on the playfield, or a cell behind it in the direction of a bridge. -/
theorem within_advance (h : Tracked f m) {a : Machine} (ha : a ∈ m.advancing host) :
    f.Within a.advance.position a.direction := by
  rw [advancing] at ha
  cases hdue : m.due? with
  | none =>
      simp only [hdue] at ha
      cases ha
  | some cell =>
      have hinside := h.contains_of_due hdue
      simp only [hdue] at ha
      rcases List.mem_append.mp ha with ha | ha
      · by_cases hskip : m.effect cell = .skip
        · rw [if_pos hskip] at ha
          obtain rfl := List.mem_singleton.mp ha
          exact Playfield.within_next hinside _
        · rw [if_neg hskip] at ha
          cases ha
      · obtain rfl : a = ((m.begin cell).apply host (m.effect cell)).1 := by
          cases hstatus : ((m.begin cell).apply host (m.effect cell)).1.status with
          | failed fault =>
              simp only [hstatus] at ha
              cases ha
          | running =>
              simp only [hstatus] at ha
              exact List.mem_singleton.mp ha
          | halted =>
              simp only [hstatus] at ha
              exact List.mem_singleton.mp ha
        obtain hposition | hskip := (m.begin cell).position_apply host (m.effect cell)
        · rw [advance, hposition]
          exact Playfield.within_next hinside _
        · rw [hskip]
          exact Playfield.within_next_next hinside _

theorem step (h : Tracked f m) (host : σ) : Tracked f (m.step host).1 where
  height := (m.shape_step host).1.trans h.height
  width := (m.shape_step host).2.trans h.width
  within := by
    cases hdue : m.due? with
    | none =>
        obtain ⟨state, error, hs⟩ := step_of_due_none hdue host
        rw [hs]
        exact h.within
    | some cell =>
        obtain hposition | ⟨a, ha, hstep⟩ := step_eq_advance hdue host
        · rw [hposition]
          exact .inl (h.contains_of_due hdue)
        · rw [hstep]
          exact h.within_advance ha

end Tracked

/-- A running machine off the playfield executes nothing more. -/
theorem callStep_of_not_contains (hrun : m.status = .running)
    (hout : ¬ m.playfield.Contains m.position) (host : σ) :
    (∀ limit, m.exhausted? = some limit →
      m.callStep host = m.fail host ((Cause.stepLimit limit).faultAt m.position)) ∧
    (m.exhausted? = none → m.callStep host =
      m.fail host ((Cause.outOfBounds (m.playfield.refuse m.position)).faultAt m.position)) := by
  refine ⟨?_, ?_⟩
  · intro limit hlimit
    exact callStep_of_fetch_error hrun (fetch_of_exhausted hlimit) host
  · intro hroom
    have hread := Playfield.read_of_not_contains hout
    exact callStep_of_fetch_error hrun (fetch_of_read_error hroom hread) host

/-- The instruction pointer never strays far enough for words to be too small. In every machine that
a run leads to on a playfield that fits into memory, it is on the playfield or at most two cells
beyond the edge it is heading for, and there the machine only fails. So no advance overflows, every
place that words compute for an address lies inside the array, and under a budget the count of cells
does not overflow. -/
theorem reachable_within_words {f : Playfield} {seed : UInt64} {budget : Option UInt64} {m : Machine}
    {host₀ host : σ} (hsize : f.height * f.width ≤ 2 ^ 62)
    (h : Reachable (Machine.start f seed budget) host₀ m host) :
    (m.playfield.height = f.height ∧ m.playfield.width = f.width) ∧
    (m.playfield.Contains m.position ∨ m.playfield.Beyond m.position m.direction) ∧
    (m.state = .running → ¬ m.playfield.Contains m.position →
      (∀ limit, m.exhausted? = some limit →
        m.callStep host = m.fail host ((Cause.stepLimit limit).faultAt m.position)) ∧
      (m.exhausted? = none → m.callStep host =
        m.fail host ((Cause.outOfBounds (m.playfield.refuse m.position)).faultAt m.position))) ∧
    (m.position.FitsWords ∧ ∀ a ∈ m.advancing host, a.advance.position.FitsWords) ∧
    (∀ row col : Int64,
      (m.playfield.index? row col = none ↔ ¬ m.playfield.Contains ⟨row.toInt, col.toInt⟩) ∧
      ∀ i, m.playfield.index? row col = some i →
        i.toNat = m.playfield.offset ⟨row.toInt, col.toInt⟩ ∧ i.toNat < m.playfield.cells.size) ∧
    ∀ limit cell, m.budget = some limit → m.due? = some cell → m.steps + 1 < UInt64.size := by
  have ht : Tracked f m := h.invariant (Tracked.start f seed budget) fun _ host hm => hm.step host
  have hshape : m.playfield.height * m.playfield.width ≤ 2 ^ 62 := by
    rw [ht.height, ht.width]
    exact hsize
  refine ⟨⟨ht.height, ht.width⟩, ?_, ?_, ⟨?_, ?_⟩, ?_, ?_⟩
  · exact (ht.within_iff _ _).mpr ht.within
  · intro hs hout
    have hm : m.Coherent := h.coherent (.start f seed budget)
    exact callStep_of_not_contains (hm.status_eq_running_iff.mpr hs) hout host
  · exact Playfield.fitsWords_of_within hsize ht.within
  · intro a ha
    exact Playfield.fitsWords_of_within hsize (ht.within_advance ha)
  · intro row col
    exact ⟨Playfield.index?_eq_none_iff hshape, fun _ => Playfield.of_index?_eq_some hshape⟩
  · intro limit cell hb hdue
    obtain ⟨hroom, -⟩ := read_of_fetch_ok (fetch_of_due hdue).2
    have hcount := steps_lt_of_exhausted?_eq_none hroom hb
    have hlimit := limit.toNat_lt_size
    omega

/-- A bridge at the end of a row leaves the instruction pointer two cells beyond the edge, where the
next step fails. -/
theorem reachable_within_words_of_bridge :
    let f : Playfield := ⟨1, 2, #[.digit 1, .instruction .bridge], by decide, by decide, rfl⟩
    let start := Machine.start f 0 none
    let host := Console.ofInput [] {}
    let m := (stepN 2 start host).1
    f.height * f.width ≤ 2 ^ 62 ∧ Reachable start host m host ∧ m.state = .running ∧
      m.position = ⟨0, 3⟩ ∧ m.playfield.Beyond ⟨0, 3⟩ .right ∧
      m.callStep host = m.fail host ((Cause.outOfBounds ⟨⟨0, 3⟩, 1, 2⟩).faultAt ⟨0, 3⟩) := by
  intro f start host m
  have hsize : f.height * f.width ≤ 2 ^ 62 := by decide
  have hreach : Reachable start host m host := .of_stepN 2 start host
  have hrun : m.state = .running := by decide
  have hout : ¬ m.playfield.Contains m.position := by decide
  obtain ⟨-, hwithin, hends, -⟩ := reachable_within_words hsize hreach
  exact ⟨hsize, hreach, hrun, by decide, hwithin.resolve_left hout, (hends hrun hout).2 (by decide)⟩

end Machine

end Funge
