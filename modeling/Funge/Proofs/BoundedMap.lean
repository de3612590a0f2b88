import Mathlib.Data.List.Induction
import Funge.Proofs.Reloading

/-!
# The playfield as a map

The cells of a playfield lie row after row in one array. Whoever reads and writes them has a map
from positions to cells that is bounded by a rectangle: a call is granted exactly inside of it, and
what is read at a position is the cell that was written there last (`Holds`), whatever happened at
the other positions. That no two positions share a place in the array is all there is to prove about
single calls; the rest is what one call preserves, and from it what a sequence of calls preserves.
-/

namespace Funge.Playfield

/-! ### Calls -/

/-- A call of a playfield. -/
inductive Call where
  | read (position : Position)
  | write (position : Position) (cell : Cell)
deriving DecidableEq, Repr

/-- The position that a call is about. -/
def Call.position : Call → Position
  | read p => p
  | write p _ => p

/-- The answer to a call. A read that is granted answers the cell, a write answers nothing. -/
def reply (f : Playfield) : Call → Except OutOfBounds (Option Cell)
  | .read p => (f.read p).map some
  | .write p cell => (f.write p cell).map fun _ => none

/-- The playfield after a call. -/
def after (f : Playfield) : Call → Playfield
  | .read _ => f
  | .write p cell =>
    match f.write p cell with
    | .ok g => g
    | .error _ => f

/-- The answers to some calls, one after another. -/
def replies (f : Playfield) : List Call → List (Except OutOfBounds (Option Cell))
  | [] => []
  | call :: calls => f.reply call :: (f.after call).replies calls

/-- The playfield after some calls. -/
def afterAll (f : Playfield) (calls : List Call) : Playfield := calls.foldl after f

/-- The position is in one of the rows, and in a column that the longest of them reaches. -/
def Inside (rows : List (List Cell)) (p : Position) : Prop :=
  0 ≤ p.row ∧ p.row < rows.length ∧ 0 ≤ p.col ∧ p.col < widest rows

/-- What a map that began with some rows holds at a position after some calls. -/
inductive Holds (rows : List (List Cell)) (calls : List Call) (p : Position) : Cell → Prop where
  /-- The cell was written there, and no other one since then. -/
  | written {before later : List Call} {cell : Cell} : calls = before ++ .write p cell :: later →
      (∀ other, .write p other ∉ later) → Holds rows calls p cell
  /-- Nothing was written there, and the cell is that of the rows, blank behind the end of a row. -/
  | original : (∀ other, .write p other ∉ calls) →
      Holds rows calls p ((p.lookup? rows).getD .blank)

variable {rows : List (List Cell)} {f g : Playfield} {calls : List Call} {call : Call}
  {p : Position} {cell : Cell}

/-! ### One call -/

theorem after_of_write (h : f.write p cell = .ok g) : f.after (.write p cell) = g := by
  simp only [after, h]

theorem after_of_refused (h : ¬ f.Contains call.position) : f.after call = f := by
  cases call with
  | read p => rfl
  | write p cell =>
      have hwrite : f.write p cell = .error (f.refuse p) := write_of_not_contains h
      simp only [after, hwrite]

theorem reply_of_refused (h : ¬ f.Contains call.position) :
    f.reply call = .error (f.refuse call.position) := by
  cases call with
  | read p => exact congrArg (Except.map some) (read_of_not_contains h)
  | write p cell => exact congrArg (Except.map fun _ => none) (write_of_not_contains h)

theorem reply_read_eq_ok_iff : f.reply (.read p) = .ok (some cell) ↔ f.read p = .ok cell := by
  simp only [reply]
  cases f.read p <;> simp [Except.map]

/-- A call is granted exactly inside the playfield. -/
theorem exists_reply_eq_ok_iff :
    (∃ answer, f.reply call = .ok answer) ↔ f.Contains call.position := by
  constructor
  · rintro ⟨answer, hanswer⟩
    refine Decidable.byContradiction fun hout => ?_
    cases (reply_of_refused hout).symm.trans hanswer
  · intro hinside
    cases call with
    | read p =>
        obtain ⟨cell, hread⟩ := exists_read hinside
        exact ⟨some cell, congrArg (Except.map some) hread⟩
    | write p cell =>
        obtain ⟨g, hwrite⟩ := exists_write hinside cell
        exact ⟨none, congrArg (Except.map fun _ => none) hwrite⟩

theorem shape_after (f : Playfield) (call : Call) :
    (f.after call).height = f.height ∧ (f.after call).width = f.width := by
  cases call with
  | read p => exact ⟨rfl, rfl⟩
  | write p cell =>
      cases hwrite : f.write p cell with
      | ok g =>
          obtain ⟨-, hheight, hwidth, -⟩ := of_write_eq_ok hwrite
          rw [after_of_write hwrite]
          exact ⟨hheight, hwidth⟩
      | error access => simp only [after, hwrite, and_self]

theorem read_after_write (h : f.Contains p) (cell : Cell) :
    (f.after (.write p cell)).read p = .ok cell := by
  obtain ⟨g, hwrite⟩ := exists_write h cell
  simpa only [after_of_write hwrite] using read_write_self hwrite

/-- A call that does not write at a position leaves it as it is. -/
theorem read_after_of_ne (h : ∀ cell, call ≠ .write p cell) : (f.after call).read p = f.read p := by
  cases call with
  | read q => rfl
  | write q cell =>
      have hne : p ≠ q := by
        rintro rfl
        exact h cell rfl
      cases hwrite : f.write q cell with
      | ok g => simpa only [after_of_write hwrite] using read_write_of_ne hwrite hne
      | error access => simp only [after, hwrite]

/-! ### Sequences of calls -/

theorem afterAll_append (f : Playfield) (calls more : List Call) :
    f.afterAll (calls ++ more) = (f.afterAll calls).afterAll more := List.foldl_append

/-- Every call is answered by the playfield that the calls before it have left. -/
theorem getElem?_replies (f : Playfield) (calls : List Call) (i : Nat) :
    (f.replies calls)[i]? = calls[i]?.map (f.afterAll (calls.take i)).reply := by
  induction calls generalizing f i with
  | nil => rfl
  | cons call calls ih =>
      cases i with
      | zero => rfl
      | succ i => exact ih (f.after call) i

theorem shape_afterAll (f : Playfield) (calls : List Call) :
    (f.afterAll calls).height = f.height ∧ (f.afterAll calls).width = f.width := by
  induction calls generalizing f with
  | nil => exact ⟨rfl, rfl⟩
  | cons call calls ih =>
      obtain ⟨hheight, hwidth⟩ := f.shape_after call
      obtain ⟨hheights, hwidths⟩ := ih (f.after call)
      exact ⟨hheights.trans hheight, hwidths.trans hwidth⟩

theorem contains_afterAll (f : Playfield) (calls : List Call) :
    (f.afterAll calls).Contains p ↔ f.Contains p := by
  obtain ⟨hheight, hwidth⟩ := f.shape_afterAll calls
  simp only [Contains, hheight, hwidth]

/-- A position at which no call writes keeps its cell. -/
theorem read_afterAll_of_not_written (f : Playfield) (h : ∀ cell, .write p cell ∉ calls) :
    (f.afterAll calls).read p = f.read p := by
  induction calls generalizing f with
  | nil => rfl
  | cons call calls ih =>
      have hfirst : ∀ cell, call ≠ .write p cell := by
        rintro cell rfl
        exact h cell List.mem_cons_self
      have hrest : ∀ cell, .write p cell ∉ calls := fun cell hmem =>
        h cell (List.mem_cons_of_mem _ hmem)
      exact (ih (f.after call) hrest).trans (read_after_of_ne hfirst)

/-- After a last write at a position inside, its cell is there. -/
theorem read_afterAll_of_written (h : f.Contains p) {before later : List Call}
    (hlater : ∀ other, .write p other ∉ later) :
    (f.afterAll (before ++ .write p cell :: later)).read p = .ok cell := by
  have hinside : (f.afterAll before).Contains p := (f.contains_afterAll before).mpr h
  rw [afterAll_append]
  calc (((f.afterAll before).after (.write p cell)).afterAll later).read p
      = ((f.afterAll before).after (.write p cell)).read p :=
        read_afterAll_of_not_written _ hlater
    _ = .ok cell := read_after_write hinside cell

/-! ### The map that the calls see -/

/-- A map holds a cell at every position. -/
theorem exists_holds (rows : List (List Cell)) (calls : List Call) (p : Position) :
    ∃ cell, Holds rows calls p cell := by
  -- Induction from the end, where the last write at the position is found first.
  induction calls using List.reverseRecOn with
  | nil => exact ⟨_, .original fun _ => List.not_mem_nil⟩
  | append_singleton calls call ih =>
      by_cases hwrites : ∃ cell, call = .write p cell
      · obtain ⟨cell, rfl⟩ := hwrites
        exact ⟨cell, .written rfl fun _ => List.not_mem_nil⟩
      · have hlast : ∀ other, .write p other ∉ [call] := fun other hmem =>
          hwrites ⟨other, (List.mem_singleton.mp hmem).symm⟩
        obtain ⟨cell, hcell⟩ := ih
        refine ⟨cell, ?_⟩
        cases hcell with
        | @written before later cell hsplit hlater =>
            have hsplit' : calls ++ [call] = before ++ .write p cell :: (later ++ [call]) := by
              rw [hsplit, List.append_assoc, List.cons_append]
            refine .written hsplit' fun other hmem => ?_
            exact (List.mem_append.mp hmem).elim (hlater other) (hlast other)
        | original hnone =>
            refine .original fun other hmem => ?_
            exact (List.mem_append.mp hmem).elim (hnone other) (hlast other)

theorem contains_iff_inside (h : ofRows? rows = some f) : f.Contains p ↔ Inside rows p := by
  obtain ⟨hheight, hwidth, -⟩ := of_ofRows?_eq_some h
  simp only [Contains, Inside, hheight, hwidth]

theorem read_of_holds (h : ofRows? rows = some f) (hp : f.Contains p)
    (hholds : Holds rows calls p cell) : (f.afterAll calls).read p = .ok cell := by
  cases hholds with
  | written hsplit hlater =>
      subst hsplit
      exact read_afterAll_of_written hp hlater
  | original hnone => exact (read_afterAll_of_not_written f hnone).trans (read_ofRows? h hp)

/-- What is read inside the rectangle is what the map holds. -/
theorem read_afterAll_eq_ok_iff (h : ofRows? rows = some f) :
    (f.afterAll calls).read p = .ok cell ↔ Inside rows p ∧ Holds rows calls p cell := by
  rw [← contains_iff_inside h]
  constructor
  · intro hread
    have hp : f.Contains p := (f.contains_afterAll calls).mp (contains_of_read hread)
    obtain ⟨held, hholds⟩ := exists_holds rows calls p
    obtain rfl := Except.ok.inj ((read_of_holds h hp hholds).symm.trans hread)
    exact ⟨hp, hholds⟩
  · rintro ⟨hp, hholds⟩
    exact read_of_holds h hp hholds

/-! ### The rows -/

theorem flatMap_row (f : Playfield) {k : Nat} (h : k ≤ f.height) :
    (List.range k).flatMap f.row = f.cells.toList.take (k * f.width) := by
  induction k with
  | zero => simp
  | succ k ih =>
      have hrow : f.row k = (f.cells.toList.drop (k * f.width)).take f.width := by
        simp [row, List.extract_eq_take_drop, Nat.succ_mul]
      rw [List.range_succ, List.flatMap_append, ih (Nat.le_of_succ_le h), List.flatMap_singleton,
        hrow, Nat.succ_mul, List.take_add]

/-- The rows one after another are the array. -/
theorem flatten_rows (f : Playfield) : f.rows.flatten = f.cells.toList := by
  have hall : f.cells.toList.length ≤ f.height * f.width := Nat.le_of_eq f.size_eq
  calc f.rows.flatten = (List.range f.height).flatMap f.row := List.flatMap_def.symm
    _ = f.cells.toList.take (f.height * f.width) := f.flatMap_row (Nat.le_refl _)
    _ = f.cells.toList := List.take_of_length_le hall

theorem length_rows (f : Playfield) : f.rows.length = f.height := by
  rw [rows_eq, List.length_map, List.length_range]

theorem getElem?_rows_eq_some_iff {r : Nat} {row : List Cell} :
    f.rows[r]? = some row ↔ r < f.height ∧ row = f.row r := by
  rw [rows_eq, List.getElem?_map, Option.map_eq_some_iff]
  constructor
  · rintro ⟨r', hr, rfl⟩
    obtain ⟨hlt, hr⟩ := List.getElem?_eq_some_iff.mp hr
    rw [List.getElem_range] at hr
    rw [List.length_range] at hlt
    exact ⟨hlt, by rw [hr]⟩
  · rintro ⟨hr, rfl⟩
    exact ⟨r, List.getElem?_range hr, rfl⟩

/-- A cell of a row is what is read in this row and column. -/
theorem getElem?_rows_bind_eq_some_iff {r c : Nat} :
    (f.rows[r]?.bind (·[c]?)) = some cell ↔ f.read ⟨r, c⟩ = .ok cell := by
  rw [Option.bind_eq_some_iff]
  constructor
  · rintro ⟨row, hrow, hcell⟩
    obtain ⟨hr, rfl⟩ := getElem?_rows_eq_some_iff.mp hrow
    exact (getElem?_row_eq_some_iff hr).mp hcell
  · intro hread
    obtain ⟨hr, -⟩ := contains_natCast.mp (contains_of_read hread)
    exact ⟨f.row r, getElem?_rows_eq_some_iff.mpr ⟨hr, rfl⟩,
      (getElem?_row_eq_some_iff hr).mpr hread⟩

/-! ### A bounded map -/

/-- After some calls a playfield is a rectangle that holds what was written in it last. -/
structure ActsAsMap (rows : List (List Cell)) (f : Playfield) (calls : List Call) : Prop where
  /-- The shape is that of the rows. -/
  height : (f.afterAll calls).height = rows.length
  width : (f.afterAll calls).width = widest rows
  size : (f.afterAll calls).cells.size = rows.length * widest rows
  /-- A call is granted exactly inside the rectangle. -/
  granted : ∀ (i : Nat) call, calls[i]? = some call →
    ((∃ answer, (f.replies calls)[i]? = some (.ok answer)) ↔ Inside rows call.position)
  /-- A read answers what the calls before it have left at the position. -/
  answered : ∀ (i : Nat) p cell, calls[i]? = some (.read p) →
    ((f.replies calls)[i]? = some (.ok (some cell)) ↔
      Inside rows p ∧ Holds rows (calls.take i) p cell)
  /-- A refusal tells the position and the shape, and nothing has changed. -/
  refused : ∀ (i : Nat) call, calls[i]? = some call → ¬ Inside rows call.position →
    (f.replies calls)[i]? = some (.error ⟨call.position, rows.length, widest rows⟩) ∧
      f.afterAll (calls.take (i + 1)) = f.afterAll (calls.take i)
  /-- The rows are the array cut into pieces of the same length, and hold what is read there. -/
  rows_length : (f.afterAll calls).rows.length = rows.length
  row_length : ∀ row ∈ (f.afterAll calls).rows, row.length = widest rows
  rows_flatten : (f.afterAll calls).rows.flatten = (f.afterAll calls).cells.toList
  rows_read : ∀ (r c : Nat) cell,
    ((f.afterAll calls).rows[r]?.bind (·[c]?)) = some cell ↔
      (f.afterAll calls).read ⟨r, c⟩ = .ok cell

/-- A playfield that was built from rows is a map bounded by their rectangle. Whatever sequence of
reads and writes it is given, and at whatever positions, each one is granted exactly inside; a read
answers the cell that was written last at exactly its position, or the cell of the rows there; a
refused call tells what it asked for and what the shape is, and changes nothing. The shape never
changes, and the rows show the cells that are read. -/
theorem acts_as_bounded_map (h : ofRows? rows = some f) (calls : List Call) :
    ActsAsMap rows f calls := by
  obtain ⟨hheight, hwidth, -⟩ := of_ofRows?_eq_some h
  have hshape : ∀ calls, (f.afterAll calls).height = rows.length ∧
      (f.afterAll calls).width = widest rows := by
    intro calls
    obtain ⟨hheights, hwidths⟩ := f.shape_afterAll calls
    exact ⟨hheights.trans hheight, hwidths.trans hwidth⟩
  obtain ⟨hrows, hcols⟩ := hshape calls
  have hinside : ∀ i p, (f.afterAll (calls.take i)).Contains p ↔ Inside rows p := fun i p =>
    (f.contains_afterAll (calls.take i)).trans (contains_iff_inside h)
  have hreply : ∀ (i : Nat) call, calls[i]? = some call →
      (f.replies calls)[i]? = some ((f.afterAll (calls.take i)).reply call) := by
    intro i call hcall
    rw [getElem?_replies, hcall, Option.map_some]
  constructor
  case height => exact hrows
  case width => exact hcols
  case size => rw [(f.afterAll calls).size_eq, hrows, hcols]
  case granted =>
    intro i call hcall
    simp only [hreply i call hcall, Option.some.injEq]
    exact exists_reply_eq_ok_iff.trans (hinside i call.position)
  case answered =>
    intro i p cell hcall
    rw [hreply i _ hcall, Option.some.injEq, reply_read_eq_ok_iff]
    exact read_afterAll_eq_ok_iff h
  case refused =>
    intro i call hcall hout
    have hout : ¬ (f.afterAll (calls.take i)).Contains call.position := mt (hinside i _).mp hout
    obtain ⟨hheights, hwidths⟩ := hshape (calls.take i)
    refine ⟨?_, ?_⟩
    · rw [hreply i call hcall, reply_of_refused hout, refuse, hheights, hwidths]
    · rw [List.take_add_one, hcall, afterAll_append]
      exact after_of_refused hout
  case rows_length => exact (f.afterAll calls).length_rows.trans hrows
  case row_length =>
    intro row hmem
    obtain ⟨r, hr⟩ := List.mem_iff_getElem?.mp hmem
    obtain ⟨hlt, rfl⟩ := getElem?_rows_eq_some_iff.mp hr
    exact (length_row hlt).trans hcols
  case rows_flatten => exact (f.afterAll calls).flatten_rows
  case rows_read =>
    intro r c cell
    exact getElem?_rows_bind_eq_some_iff

/-- A column too many is refused although the next row begins there in the array, and so is a row
before the first one; a cell that was padded in is written twice. -/
theorem acts_as_bounded_map_of_ragged :
    let rows : List (List Cell) := [[.digit 1, .other 65], [.instruction .halt]]
    let f : Playfield := ⟨2, 2, #[.digit 1, .other 65, .instruction .halt, .blank],
      by decide, by decide, rfl⟩
    let calls : List Call := [.write ⟨0, 2⟩ (.digit 7), .write ⟨1, 1⟩ (.digit 8), .read ⟨-1, 0⟩,
      .write ⟨1, 1⟩ (.other (-5)), .read ⟨1, 1⟩, .read ⟨1, 0⟩]
    ofRows? rows = some f ∧
      (f.replies calls)[0]? = some (.error ⟨⟨0, 2⟩, 2, 2⟩) ∧
      (f.replies calls)[2]? = some (.error ⟨⟨-1, 0⟩, 2, 2⟩) ∧
      (f.replies calls)[4]? = some (.ok (some (.other (-5)))) ∧
      (f.replies calls)[5]? = some (.ok (some (.instruction .halt))) ∧
      (f.afterAll calls).rows.flatten = (f.afterAll calls).cells.toList := by
  intro rows f calls
  have hload : ofRows? rows = some f := by decide
  have hmap := acts_as_bounded_map hload calls
  have hcolumn : ¬ Inside rows ⟨0, 2⟩ := by
    rintro ⟨-, -, -, hcol⟩
    exact absurd hcol (by decide)
  have hrow : ¬ Inside rows ⟨-1, 0⟩ := by
    rintro ⟨hrow, -⟩
    exact absurd hrow (by decide)
  have hlast : Holds rows (calls.take 3 ++ [.write ⟨1, 1⟩ (.other (-5))]) ⟨1, 1⟩ (.other (-5)) :=
    .written rfl fun _ => List.not_mem_nil
  have hkept : Holds rows (calls.take 5) ⟨1, 0⟩ (.instruction .halt) :=
    .original fun other hmem => by simp [calls] at hmem
  refine ⟨hload, (hmap.refused 0 _ rfl hcolumn).1, (hmap.refused 2 _ rfl hrow).1, ?_, ?_,
    hmap.rows_flatten⟩
  · exact (hmap.answered 4 _ _ rfl).mpr ⟨⟨by decide, by decide, by decide, by decide⟩, hlast⟩
  · exact (hmap.answered 5 _ _ rfl).mpr ⟨⟨by decide, by decide, by decide, by decide⟩, hkept⟩

end Funge.Playfield
