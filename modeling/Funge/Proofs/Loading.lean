import Funge.Playfield

/-!
# Cells of a loaded playfield

A playfield that is built from rows has their number and the length of the longest as its shape, and
every cell is the one of its row and column, or a blank where the row has ended. The rows are padded
and laid end to end, so this is a fact about where a padded row begins (`getElem?_flatMap_pad`). The
shape and the cells are all there is to a playfield (`eq_of_read`).
-/

namespace Funge

/-! ### Rows and columns -/

namespace Position

variable {α β : Type}

/-- What stands at a position in a list of rows, if the rows reach that far. -/
def lookup? (p : Position) (rows : List (List α)) : Option α :=
  if 0 ≤ p.row ∧ 0 ≤ p.col then rows[p.row.toNat]?.bind (·[p.col.toNat]?) else none

@[simp] theorem lookup?_natCast (r c : Nat) (rows : List (List α)) :
    lookup? ⟨r, c⟩ rows = rows[r]?.bind (·[c]?) :=
  if_pos ⟨Int.natCast_nonneg r, Int.natCast_nonneg c⟩

theorem lookup?_map (p : Position) (g : α → β) (rows : List (List α)) :
    p.lookup? (rows.map (List.map g)) = (p.lookup? rows).map g := by
  rw [lookup?, lookup?]
  split
  · rw [List.getElem?_map]
    cases rows[p.row.toNat]? with
    | none => rfl
    | some row => exact List.getElem?_map
  · rfl

end Position

/-! ### From rows to cells -/

namespace Playfield

/-- A padded row has its own cells first and then blanks. -/
theorem getElem?_pad {width c : Nat} (row : List Cell) (h : c < width) :
    (pad width row)[c]? = some (row[c]?.getD .blank) := by
  by_cases hc : c < row.length
  · rw [pad, List.getElem?_append_left hc, List.getElem?_eq_getElem hc, Option.getD_some]
  · have hout : row.length ≤ c := Nat.le_of_not_lt hc
    have hroom : c - row.length < width - row.length := by omega
    rw [pad, List.getElem?_append_right hout, List.getElem?_replicate_of_lt hroom,
      List.getElem?_eq_none hout, Option.getD_none]

/-- Row after row, each row has as many places as the rectangle is wide. -/
theorem getElem?_flatMap_pad {rows : List (List Cell)} {width r c : Nat}
    (hrows : ∀ row ∈ rows, row.length ≤ width) (hc : c < width) :
    (rows.flatMap (pad width))[r * width + c]? =
      rows[r]?.map fun row => row[c]?.getD .blank := by
  induction rows generalizing r with
  | nil => simp
  | cons row rows ih =>
      have hlength : (pad width row).length = width := length_pad (hrows row List.mem_cons_self)
      rw [List.flatMap_cons]
      cases r with
      | zero =>
          rw [Nat.zero_mul, Nat.zero_add, List.getElem?_append_left (by omega), getElem?_pad row hc]
          rfl
      | succ r =>
          have hindex : (r + 1) * width + c = width + (r * width + c) := by
            rw [Nat.succ_mul]
            omega
          rw [hindex, List.getElem?_append_right (by omega), hlength, Nat.add_sub_cancel_left,
            ih fun row hrow => hrows row (List.mem_cons_of_mem _ hrow)]
          rfl

/-! ### The shape of rows -/

theorem widest_le_iff {rows : List (List Cell)} {n : Nat} :
    widest rows ≤ n ↔ ∀ row ∈ rows, row.length ≤ n := by
  induction rows with
  | nil => simp [widest]
  | cons row rows ih =>
      change max row.length (widest rows) ≤ n ↔ _
      rw [Nat.max_le, ih, List.forall_mem_cons]

/-- The width that rows need is the length of one of them. -/
theorem exists_length_eq_widest {rows : List (List Cell)} (h : 0 < widest rows) :
    ∃ row ∈ rows, row.length = widest rows := by
  refine Decidable.byContradiction fun hne => ?_
  -- Otherwise every row is shorter, and a smaller width would do.
  have hle : widest rows ≤ widest rows - 1 := by
    rw [widest_le_iff]
    intro row hrow
    have hrowle : row.length ≤ widest rows := length_le_widest hrow
    have hrowne : row.length ≠ widest rows := fun heq => hne ⟨row, hrow, heq⟩
    omega
  omega

/-- Rows make no playfield exactly when they have no cell. -/
theorem ofRows?_eq_none_iff {rows : List (List Cell)} :
    ofRows? rows = none ↔ ∀ row ∈ rows, row = [] := by
  have hempty : widest rows = 0 ↔ ∀ row ∈ rows, row = [] := by
    rw [← Nat.le_zero, widest_le_iff]
    simp only [Nat.le_zero, List.length_eq_zero_iff]
  rw [← hempty, ofRows?]
  split
  · next h => simp [Nat.ne_of_gt h.2]
  · next h =>
    cases rows with
    | nil => simp [widest]
    | cons row rows => simpa using h

/-! ### Shape and cells of a loaded playfield -/

variable {rows : List (List Cell)} {f g : Playfield}

/-- The shape and the cells of a playfield that is built from rows. -/
theorem of_ofRows?_eq_some (h : ofRows? rows = some f) :
    f.height = rows.length ∧ f.width = widest rows ∧
      f.cells = (rows.flatMap (pad (widest rows))).toArray := by
  rw [ofRows?] at h
  split at h
  · rw [← Option.some.inj h]
    exact ⟨rfl, rfl, rfl⟩
  · cases h

/-- A playfield built from rows holds at each of its positions what the rows have there, and a blank
where the row is shorter. -/
theorem read_ofRows? (h : ofRows? rows = some f) {p : Position} (hp : f.Contains p) :
    f.read p = .ok ((p.lookup? rows).getD .blank) := by
  obtain ⟨hheight, hwidth, hcells⟩ := of_ofRows?_eq_some h
  rw [read_eq_ok_iff]
  refine ⟨hp, ?_⟩
  obtain ⟨hrow, hrow', hcol, hcol'⟩ := hp
  have hr : p.row.toNat < rows.length := by omega
  have hc : p.col.toNat < widest rows := by omega
  rw [offset, hcells, hwidth, List.getElem?_toArray,
    getElem?_flatMap_pad (fun _ => length_le_widest) hc, Position.lookup?, if_pos ⟨hrow, hcol⟩,
    List.getElem?_eq_getElem hr]
  rfl

/-- The rows have nothing outside the playfield that is built from them. -/
theorem lookup?_of_not_contains (h : ofRows? rows = some f) {p : Position} (hp : ¬ f.Contains p) :
    p.lookup? rows = none := by
  obtain ⟨hheight, hwidth, -⟩ := of_ofRows?_eq_some h
  rw [Position.lookup?]
  split
  · next hsign =>
    cases hr : rows[p.row.toNat]? with
    | none => rfl
    | some row =>
        obtain ⟨hlt, -⟩ := List.getElem?_eq_some_iff.mp hr
        have hle : row.length ≤ widest rows := length_le_widest (List.mem_of_getElem? hr)
        refine List.getElem?_eq_none (Nat.le_of_not_lt fun hc => hp ?_)
        exact ⟨hsign.1, by omega, hsign.2, by omega⟩
  · rfl

theorem contains_natCast {r c : Nat} : f.Contains ⟨r, c⟩ ↔ r < f.height ∧ c < f.width := by
  constructor
  · rintro ⟨-, hr, -, hc⟩
    exact ⟨Int.ofNat_lt.mp hr, Int.ofNat_lt.mp hc⟩
  · rintro ⟨hr, hc⟩
    exact ⟨Int.natCast_nonneg r, Int.ofNat_lt.mpr hr, Int.natCast_nonneg c, Int.ofNat_lt.mpr hc⟩

/-- A position inside a playfield is the number of a row and the number of a column. -/
theorem exists_natCast {p : Position} (h : f.Contains p) :
    ∃ r c : Nat, r < f.height ∧ c < f.width ∧ p = ⟨r, c⟩ := by
  obtain ⟨row, col⟩ := p
  obtain ⟨r, rfl⟩ := Int.eq_ofNat_of_zero_le h.1
  obtain ⟨c, rfl⟩ := Int.eq_ofNat_of_zero_le h.2.2.1
  obtain ⟨hr, hc⟩ := contains_natCast.mp h
  exact ⟨r, c, hr, hc, rfl⟩

/-- Every place in the array is the place of a position. -/
theorem exists_offset_eq {i : Nat} (h : i < f.cells.size) : ∃ p, f.Contains p ∧ f.offset p = i := by
  rw [f.size_eq] at h
  have hrow : i / f.width < f.height := Nat.div_lt_of_lt_mul (by rwa [Nat.mul_comm])
  have hcol : i % f.width < f.width := Nat.mod_lt _ f.width_pos
  refine ⟨⟨(i / f.width : Nat), (i % f.width : Nat)⟩, contains_natCast.mpr ⟨hrow, hcol⟩, ?_⟩
  exact Nat.div_add_mod' i f.width

/-- A playfield is known from its shape and from what is read inside it. -/
theorem eq_of_read (hheight : f.height = g.height) (hwidth : f.width = g.width)
    (hread : ∀ p, f.Contains p → f.read p = g.read p) : f = g := by
  have hsize : f.cells.size = g.cells.size := by
    rw [f.size_eq, g.size_eq, hheight, hwidth]
  have hcells : f.cells = g.cells := by
    refine Array.ext hsize fun i hi hi' => ?_
    obtain ⟨p, hp, rfl⟩ := exists_offset_eq hi
    obtain ⟨cell, hcell⟩ := exists_read hp
    have hcell' : g.read p = .ok cell := (hread p hp).symm.trans hcell
    have hplace : g.offset p = f.offset p := by simp only [offset, hwidth]
    rw [read_eq_ok_iff] at hcell hcell'
    rw [hplace] at hcell'
    obtain ⟨_, heq⟩ := Array.getElem?_eq_some_iff.mp hcell.2
    obtain ⟨_, heq'⟩ := Array.getElem?_eq_some_iff.mp hcell'.2
    exact heq.trans heq'.symm
  cases f
  cases g
  simp only at hheight hwidth hcells
  subst hheight hwidth hcells
  rfl

end Playfield

end Funge
