import Funge.Cell
import Funge.Position
import Funge.Text.Lines

/-!
# The playfield

A rectangle of cells that holds the program and that the program reads and writes while it runs. The
cells lie row after row in one array. The shape never changes, and there is always a cell at the top
left corner, where a program starts: text without any cell does not load.

An access outside the rectangle is refused with the position that was asked for and the shape it
missed, and leaves the playfield as it is.
-/

namespace Funge

/-- A rectangle of cells, stored row after row. -/
structure Playfield where
  height : Nat
  width : Nat
  cells : Array Cell
  height_pos : 0 < height
  width_pos : 0 < width
  size_eq : cells.size = height * width
deriving DecidableEq

/-- A refused access: the position, and the shape of the playfield that does not contain it. -/
structure OutOfBounds where
  position : Position
  height : Nat
  width : Nat
deriving DecidableEq, Repr

namespace OutOfBounds

/-- What to tell about a refused access. -/
def message (access : OutOfBounds) : String :=
  s!"cell {access.position} is outside the {access.height}x{access.width} grid"

end OutOfBounds

namespace Playfield

/-! ### Reading and writing -/

/-- A position lies inside the rectangle. -/
def Contains (f : Playfield) (p : Position) : Prop :=
  0 ≤ p.row ∧ p.row < f.height ∧ 0 ≤ p.col ∧ p.col < f.width

instance (f : Playfield) (p : Position) : Decidable (f.Contains p) :=
  inferInstanceAs (Decidable (_ ∧ _ ∧ _ ∧ _))

/-- Where a position's cell lies in the array. -/
def offset (f : Playfield) (p : Position) : Nat := p.row.toNat * f.width + p.col.toNat

theorem offset_lt {f : Playfield} {p : Position} (h : f.Contains p) :
    f.offset p < f.cells.size := by
  obtain ⟨hr, hr', hc, hc'⟩ := h
  rw [f.size_eq]
  have hrow : p.row.toNat + 1 ≤ f.height := by omega
  have hcol : p.col.toNat < f.width := by omega
  calc f.offset p < p.row.toNat * f.width + f.width := Nat.add_lt_add_left hcol _
    _ = (p.row.toNat + 1) * f.width := (Nat.succ_mul _ _).symm
    _ ≤ f.height * f.width := Nat.mul_le_mul_right _ hrow

/-- A refusal of an access at a position. -/
def refuse (f : Playfield) (p : Position) : OutOfBounds := ⟨p, f.height, f.width⟩

/-- The cell at a position. -/
def read (f : Playfield) (p : Position) : Except OutOfBounds Cell :=
  if h : f.Contains p then
    have bound := offset_lt h
    .ok f.cells[f.offset p]
  else .error (f.refuse p)

/-- The playfield with another cell at a position. -/
def write (f : Playfield) (p : Position) (cell : Cell) : Except OutOfBounds Playfield :=
  if h : f.Contains p then
    .ok { f with
      cells := f.cells.set (f.offset p) cell (offset_lt h)
      size_eq := by rw [Array.size_set, f.size_eq] }
  else .error (f.refuse p)

/-- Different positions inside the rectangle have their cells at different places. -/
theorem offset_injective {f : Playfield} {p q : Position} (hp : f.Contains p) (hq : f.Contains q)
    (h : f.offset p = f.offset q) : p = q := by
  obtain ⟨hpr, -, hpc, hpc'⟩ := hp
  obtain ⟨hqr, -, hqc, hqc'⟩ := hq
  have hcol : p.col.toNat = q.col.toNat := by
    have hmod := congrArg (· % f.width) h
    simp only [offset, Nat.mul_add_mod_self_right] at hmod
    rwa [Nat.mod_eq_of_lt (by omega), Nat.mod_eq_of_lt (by omega)] at hmod
  have hrow : p.row.toNat = q.row.toNat := by
    have hmul : p.row.toNat * f.width = q.row.toNat * f.width := by
      unfold offset at h
      omega
    exact Nat.eq_of_mul_eq_mul_right f.width_pos hmul
  exact Position.ext (by omega) (by omega)

theorem read_eq_ok_iff {f : Playfield} {p : Position} {cell : Cell} :
    f.read p = .ok cell ↔ f.Contains p ∧ f.cells[f.offset p]? = some cell := by
  unfold read
  split
  · next h =>
    have bound := offset_lt h
    rw [Array.getElem?_eq_getElem bound, Except.ok.injEq, Option.some.injEq]
    exact ⟨fun hc => ⟨h, hc⟩, fun hc => hc.2⟩
  · next h =>
    constructor
    · intro hc
      cases hc
    · intro hc
      exact absurd hc.1 h

theorem read_of_not_contains {f : Playfield} {p : Position} (h : ¬ f.Contains p) :
    f.read p = .error (f.refuse p) := dif_neg h

theorem contains_of_read {f : Playfield} {p : Position} {cell : Cell} (h : f.read p = .ok cell) :
    f.Contains p := (read_eq_ok_iff.1 h).1

theorem exists_read {f : Playfield} {p : Position} (h : f.Contains p) :
    ∃ cell, f.read p = .ok cell := ⟨_, dif_pos h⟩

theorem not_contains_of_read_error {f : Playfield} {p : Position} {access : OutOfBounds}
    (h : f.read p = .error access) : ¬ f.Contains p := by
  intro hinside
  obtain ⟨cell, hread⟩ := exists_read hinside
  cases h.symm.trans hread

theorem exists_write {f : Playfield} {p : Position} (h : f.Contains p) (cell : Cell) :
    ∃ g, f.write p cell = .ok g := ⟨_, dif_pos h⟩

theorem write_of_not_contains {f : Playfield} {p : Position} {cell : Cell} (h : ¬ f.Contains p) :
    f.write p cell = .error (f.refuse p) := dif_neg h

/-- What a write that is not refused changes. -/
theorem of_write_eq_ok {f g : Playfield} {p : Position} {cell : Cell} (h : f.write p cell = .ok g) :
    f.Contains p ∧ g.height = f.height ∧ g.width = f.width ∧
      ∀ i, g.cells[i]? = if f.offset p = i then some cell else f.cells[i]? := by
  unfold write at h
  split at h
  · next hp =>
    obtain rfl := Except.ok.inj h
    refine ⟨hp, rfl, rfl, ?_⟩
    intro i
    rw [Array.getElem?_set]
  · cases h

theorem contains_write {f g : Playfield} {p : Position} {cell : Cell} (h : f.write p cell = .ok g)
    (q : Position) : g.Contains q ↔ f.Contains q := by
  obtain ⟨-, hh, hw, -⟩ := of_write_eq_ok h
  unfold Contains
  rw [hh, hw]

/-- A write that is not refused replaces exactly the cell it addresses. -/
theorem read_write {f g : Playfield} {p : Position} {cell : Cell} (h : f.write p cell = .ok g)
    (q : Position) : g.read q = if q = p then .ok cell else f.read q := by
  obtain ⟨hp, hh, hw, hcells⟩ := of_write_eq_ok h
  have hoffset : g.offset q = f.offset q := by
    unfold offset
    rw [hw]
  by_cases hq : f.Contains q
  · have hg := (contains_write h q).2 hq
    split
    · next he =>
      rw [read_eq_ok_iff, hcells, hoffset, he]
      exact ⟨he ▸ hg, if_pos rfl⟩
    · next he =>
      have hne : f.offset p ≠ f.offset q := fun e => he (offset_injective hq hp e.symm)
      cases hr : f.read q with
      | ok found =>
        rw [read_eq_ok_iff] at hr ⊢
        exact ⟨hg, by rw [hcells, hoffset, if_neg hne, hr.2]⟩
      | error access =>
        rw [read, dif_pos hq] at hr
        cases hr
  · have hg : ¬ g.Contains q := fun hc => hq ((contains_write h q).1 hc)
    have hne : q ≠ p := fun e => hq (e ▸ hp)
    rw [if_neg hne, read_of_not_contains hq, read_of_not_contains hg]
    unfold refuse
    rw [hh, hw]

theorem read_write_self {f g : Playfield} {p : Position} {cell : Cell}
    (h : f.write p cell = .ok g) : g.read p = .ok cell := by
  rw [read_write h, if_pos rfl]

theorem read_write_of_ne {f g : Playfield} {p q : Position} {cell : Cell}
    (h : f.write p cell = .ok g) (hne : q ≠ p) : g.read q = f.read q := by
  rw [read_write h, if_neg hne]

/-- The rows from top to bottom, each from left to right. -/
def rows (f : Playfield) : List (List Cell) :=
  (List.range f.height).map fun r =>
    (f.cells.extract (r * f.width) ((r + 1) * f.width)).toList

/-! ### Building a playfield -/

/-- A row filled up with blanks to a width. -/
def pad (width : Nat) (row : List Cell) : List Cell :=
  row ++ List.replicate (width - row.length) .blank

/-- The length of the longest row. -/
def widest (rows : List (List Cell)) : Nat := (rows.map List.length).foldr max 0

theorem length_pad {width : Nat} {row : List Cell} (h : row.length ≤ width) :
    (pad width row).length = width := by
  simp only [pad, List.length_append, List.length_replicate]
  omega

theorem length_le_widest {rows : List (List Cell)} {row : List Cell} (h : row ∈ rows) :
    row.length ≤ widest rows := by
  induction rows with
  | nil => cases h
  | cons first rest ih =>
    change row.length ≤ max first.length (widest rest)
    rcases List.mem_cons.1 h with rfl | h
    · exact Nat.le_max_left _ _
    · exact Nat.le_trans (ih h) (Nat.le_max_right _ _)

theorem length_flatMap_pad {rows : List (List Cell)} {width : Nat}
    (h : ∀ row ∈ rows, row.length ≤ width) :
    (rows.flatMap (pad width)).length = rows.length * width := by
  induction rows with
  | nil => simp
  | cons first rest ih =>
    rw [List.flatMap_cons, List.length_append, length_pad (h first List.mem_cons_self),
      ih fun row hrow => h row (List.mem_cons_of_mem _ hrow), List.length_cons, Nat.succ_mul,
      Nat.add_comm]

/-- The playfield with the given rows, short ones filled up with blanks; `none` when there is no
cell at all. -/
def ofRows? (rows : List (List Cell)) : Option Playfield :=
  if h : 0 < rows.length ∧ 0 < widest rows then
    some {
      height := rows.length
      width := widest rows
      cells := (rows.flatMap (pad (widest rows))).toArray
      height_pos := h.1
      width_pos := h.2
      size_eq := by
        rw [List.size_toArray, length_flatMap_pad fun _ hrow => length_le_widest hrow] }
  else none

/-- The playfield a program text describes: one row for each line, one cell for each character. -/
def ofSource? (source : String) : Option Playfield :=
  ofRows? ((Lines.rows source.toList).map fun line => line.map Cell.ofChar)

end Playfield

end Funge
