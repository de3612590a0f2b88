import Mathlib.Data.List.DropRight
import Funge.Console
import Funge.Machine.Run
import Funge.Proofs.Marking

/-!
# Which cells a diagnostic shows

A diagnostic shows the place of a cell that was written in the program text, and reports a padding
cell by its title and message alone. The lines of the page are another division of the text, but they
have a place for every character of it (`Breaks.exists_locate`), so what is found in the text is
shown.

Not every written cell is found. A line feed and one carriage return before it end a line, and the
diagnostic takes every carriage return there is at the end of a line for a part of that end, also
those that are cells. So the cells that are not found are the padding and the carriage returns with
nothing but carriage returns behind them (`Diagnostic.range?_eq_none_iff`).
-/

namespace Funge

/-! ### Places on the page -/

namespace Breaks

/-- Every character of a page has a place: a column of one of the lines. -/
theorem exists_locate {lines : List (List Char)} {offset : Nat}
    (h : offset < lines.flatten.length) :
    ∃ index col whole, locate lines offset = some (index, col, whole) ∧
      lines[index]? = some whole ∧ whole[col]? = lines.flatten[offset]? := by
  induction lines generalizing offset with
  | nil => exact absurd h (Nat.not_lt_zero offset)
  | cons first more ih =>
      rw [List.flatten_cons]
      by_cases hfirst : offset < first.length
      · refine ⟨0, offset, first, if_pos hfirst, rfl, ?_⟩
        exact (List.getElem?_append_left hfirst).symm
      · have hle : first.length ≤ offset := Nat.le_of_not_lt hfirst
        rw [List.flatten_cons, List.length_append] at h
        have hlater : offset - first.length < more.flatten.length := by omega
        obtain ⟨index, col, whole, hplace, hline, hchar⟩ := ih hlater
        refine ⟨index + 1, col, whole, ?_, hline, ?_⟩
        · rw [locate, if_neg hfirst, hplace]
          rfl
        · rw [List.getElem?_append_right hle]
          exact hchar

end Breaks

/-! ### Cells that are not found in the text -/

/-- A list without its longest ending of some elements is no longer than a number exactly if there
are only such elements from there on. -/
theorem length_rdropWhile_le_iff {α : Type} {p : α → Bool} {l : List α} {n : Nat} :
    (l.rdropWhile p).length ≤ n ↔ ∀ (i : Nat) a, n ≤ i → l[i]? = some a → p a = true := by
  have hsplit : l.rdropWhile p ++ l.rtakeWhile p = l := List.rdropWhile_append_rtakeWhile
  constructor
  · intro h i a hi ha
    rw [← hsplit, List.getElem?_append_right (Nat.le_trans h hi)] at ha
    exact List.mem_rtakeWhile_imp (List.mem_of_getElem? ha)
  · intro h
    refine Nat.le_of_not_lt fun hlt => ?_
    -- The last element that is left is not of this kind, and it is not before the place.
    have hne : l.rdropWhile p ≠ [] := List.ne_nil_of_length_pos (by omega)
    have hlast : (l.rdropWhile p ++ l.rtakeWhile p)[(l.rdropWhile p).length - 1]? =
        some ((l.rdropWhile p).getLast hne) := by
      rw [List.getElem?_append_left (by omega), ← List.getLast?_eq_getElem?,
        List.getLast?_eq_getLast_of_ne_nil hne]
    rw [hsplit] at hlast
    exact List.rdropWhile_last_not p l hne (h _ _ (by omega) hlast)

namespace Diagnostic

open Lines (CutInto Line)

variable {source : String} {f : Playfield} {p : Position} {a b : Nat}

/-- From the end of its cells on there are only carriage returns on a line. -/
theorem cellCount_chars_le_iff (line : Line) {c : Nat} :
    cellCount line.chars ≤ c ↔
      ∀ (i : Nat) char, c ≤ i → line.content[i]? = some char → char = '\r' := by
  have hcount : cellCount line.chars =
      (line.content.rdropWhile fun c => c = '\n' || c = '\r').length := by
    rw [cellCount_chars, List.rdropWhile, List.length_reverse]
  rw [hcount, length_rdropWhile_le_iff]
  refine forall₄_congr fun i char _ hchar => ?_
  have hfeed : char ≠ '\n' := by
    rintro rfl
    exact line.newline_not_mem (List.mem_of_getElem? hchar)
  simp [hfeed]

theorem offset?_eq_none_iff {text : List Char} {cut : List Line} (hcut : CutInto text cut)
    {r c : Nat} {line : Line} (hline : cut[r]? = some line) :
    offset? text ⟨r, c⟩ = none ↔ cellCount line.chars ≤ c := by
  rw [Option.eq_none_iff_forall_ne_some]
  constructor
  · intro h
    refine Nat.le_of_not_lt fun hc => ?_
    exact h _ ((offset?_eq_some_iff hcut).mpr ⟨r, c, line, rfl, hline, hc, rfl⟩)
  · intro hc a ha
    obtain ⟨r', c', line', hp, hline', hc', -⟩ := (offset?_eq_some_iff hcut).mp ha
    obtain ⟨hr, hcol⟩ := Position.mk.inj hp
    obtain rfl := Int.ofNat.inj hr
    obtain rfl := Int.ofNat.inj hcol
    obtain rfl := Option.some.inj (hline.symm.trans hline')
    exact absurd hc' (Nat.not_lt_of_le hc)

/-- Inside a playfield the positions that are not found in the program text are those with nothing
but carriage returns from there on in the line. -/
theorem range?_eq_none_iff (hload : Playfield.ofSource? source = some f) (hp : f.Contains p) :
    range? source.toList p = none ↔
      ∀ (col : Int) char, p.col ≤ col →
        Position.lookup? ⟨p.row, col⟩ (Lines.rows source.toList) = some char → char = '\r' := by
  obtain ⟨cut, hcut⟩ := Lines.exists_cutInto source.toList
  rw [Playfield.ofSource?_of_cutInto hcut] at hload
  obtain ⟨r, c, hr, -, rfl⟩ := Playfield.exists_natCast hp
  have hheight : f.height = (cut.map Line.content).length :=
    (Playfield.laysOut_of_ofRows? hload).height
  rw [hheight, List.length_map] at hr
  have hline : cut[r]? = some cut[r] := List.getElem?_eq_getElem hr
  have hcontent : (cut.map Line.content)[r]? = some cut[r].content := by
    rw [List.getElem?_map, hline, Option.map_some]
  rw [range?, Option.map_eq_none_iff, offset?_eq_none_iff hcut hline, cellCount_chars_le_iff,
    hcut.rows_eq]
  constructor
  · intro h col char hcol hchar
    obtain ⟨i, rfl⟩ := Int.eq_ofNat_of_zero_le (Int.le_trans (Int.natCast_nonneg c) hcol)
    rw [Position.lookup?_natCast, hcontent, Option.bind_some] at hchar
    exact h i char (Int.ofNat_le.mp hcol) hchar
  · intro h i char hi hchar
    refine h i char (Int.ofNat_le.mpr hi) ?_
    rw [Position.lookup?_natCast, hcontent, Option.bind_some, hchar]

/-! ### Cells that are shown -/

/-- What is found in the program text has a place on the page, and the character there is the one
that was found. -/
theorem exists_place_of_range? (h : range? source.toList p = some (a, b)) :
    ∃ index col whole, Breaks.locate (Breaks.lines source.toList) a = some (index, col, whole) ∧
      (Breaks.lines source.toList)[index]? = some whole ∧ whole[col]? = source.toList[a]? := by
  obtain ⟨char, -, htext, -⟩ := exists_read_of_offset? (range?_eq_some_iff.mp h).1
  have hinside : a < (Breaks.lines source.toList).flatten.length := by
    rw [Breaks.flatten_lines]
    exact (List.getElem?_eq_some_iff.mp htext).1
  obtain ⟨index, col, whole, hplace, hline, hchar⟩ := Breaks.exists_locate hinside
  rw [Breaks.flatten_lines] at hchar
  exact ⟨index, col, whole, hplace, hline, hchar⟩

theorem render_of_locate {d : Diagnostic} {place : Nat × Nat × List Char} (file : String)
    (h : range? source.toList d.position = some (a, b))
    (hplace : Breaks.locate (Breaks.lines source.toList) a = some place) :
    d.render file source = d.renderAt file place := by
  have hbind : ((range? source.toList d.position).bind fun range =>
      Breaks.locate (Breaks.lines source.toList) range.1) = some place := by
    rw [h]
    exact hplace
  rw [render, hbind]

theorem render_of_range?_eq_none {d : Diagnostic} (file : String)
    (h : range? source.toList d.position = none) :
    d.render file source = heading ++ s!" {d.title}: {d.message}\n" := by
  rw [render, h]
  rfl

/-- A diagnostic shows the place of every cell that was written in the program text, except for the
carriage returns that have nothing but carriage returns behind them in their line. Inside the
playfield the other cells it does not find are the padding. Every fault at a cell that it finds is
reported with the line on the page that holds the cell and the column of the cell's character in it,
and every fault at another cell by its title and message. -/
theorem written_cell_shown (hload : Playfield.ofSource? source = some f) (hp : f.Contains p) :
    (range? source.toList p = none ↔
      ∀ (col : Int) char, p.col ≤ col →
        Position.lookup? ⟨p.row, col⟩ (Lines.rows source.toList) = some char → char = '\r') ∧
    ∀ (fault : Fault) file, fault.position = p →
      let d := fault.diagnostic
      (range? source.toList p = none →
        d.render file source = heading ++ s!" {d.title}: {d.message}\n") ∧
      (range? source.toList p ≠ none →
        ∃ index col whole char, d.render file source = d.renderAt file (index, col, whole) ∧
          (Breaks.lines source.toList)[index]? = some whole ∧ whole[col]? = some char ∧
          p.lookup? (Lines.rows source.toList) = some char ∧ f.read p = .ok (.ofChar char)) := by
  refine ⟨range?_eq_none_iff hload hp, ?_⟩
  rintro fault file rfl d
  refine ⟨fun hnone => render_of_range?_eq_none (d := d) file hnone, fun hfound => ?_⟩
  obtain ⟨⟨a, b⟩, hrange⟩ := Option.ne_none_iff_exists'.mp hfound
  obtain ⟨char, g, htext, hlookup, hload', hread⟩ :=
    exists_read_of_offset? (range?_eq_some_iff.mp hrange).1
  obtain rfl := Option.some.inj (hload.symm.trans hload')
  obtain ⟨index, col, whole, hplace, hline, hchar⟩ := exists_place_of_range? hrange
  exact ⟨index, col, whole, char, render_of_locate file hrange hplace, hline, hchar.trans htext,
    hlookup, hread⟩

/-- A carriage return is shown where it is not the end of its line. -/
theorem written_cell_shown_of_return :
    let source := "a\rb\r\r\n@"
    let f : Playfield := ⟨2, 4, #[.other 97, .other 13, .other 98, .other 13,
      .instruction .halt, .blank, .blank, .blank], by decide, by decide, rfl⟩
    let d := (Cause.divisionByZero.faultAt ⟨0, 1⟩).diagnostic
    Playfield.ofSource? source = some f ∧ f.Contains ⟨0, 1⟩ ∧
      ∃ index col whole, d.render "a.bf" source = d.renderAt "a.bf" (index, col, whole) ∧
        whole[col]? = some '\r' := by
  intro source f d
  have hload : Playfield.ofSource? source = some f := by decide
  have hp : f.Contains ⟨0, 1⟩ := by decide
  have hlookup : Position.lookup? ⟨0, 1⟩ (Lines.rows source.toList) = some '\r' := by decide
  have hfound : range? source.toList ⟨0, 1⟩ ≠ none := by decide
  obtain ⟨-, hshown⟩ := written_cell_shown hload hp
  obtain ⟨index, col, whole, char, hrender, -, hchar, hcell, -⟩ :=
    (hshown (Cause.divisionByZero.faultAt ⟨0, 1⟩) "a.bf" rfl).2 hfound
  obtain rfl := Option.some.inj (hcell.symm.trans hlookup)
  exact ⟨hload, hp, index, col, whole, hrender, hchar⟩

/-- A carriage return at the end of a program is a cell, and a run can fail there, but the diagnostic
does not find it and shows no place. -/
theorem exists_written_cell_not_shown :
    let source := "1\r"
    let f : Playfield := ⟨1, 2, #[.digit 1, .other 13], by decide, by decide, rfl⟩
    let fault := (Cause.stepLimit 1).faultAt ⟨0, 1⟩
    let d := fault.diagnostic
    Playfield.ofSource? source = some f ∧ f.Contains ⟨0, 1⟩ ∧
      Position.lookup? ⟨0, 1⟩ (Lines.rows source.toList) = some '\r' ∧
      (Machine.callRun 2 (.start f 0 (some 1)) (Console.ofInput [] {})).map (·.answer) =
        some (.error fault) ∧
      range? source.toList ⟨0, 1⟩ = none ∧
      d.render "a.bf" source = heading ++ s!" {d.title}: {d.message}\n" := by
  intro source f fault d
  have hnone : range? source.toList ⟨0, 1⟩ = none := by decide
  exact ⟨by decide, by decide, by decide, by decide, hnone,
    render_of_range?_eq_none (d := d) "a.bf" hnone⟩

end Diagnostic

end Funge
