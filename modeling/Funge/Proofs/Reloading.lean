import Funge.Playfield.Dump
import Funge.Proofs.Memory
import Funge.Proofs.SourceLines

/-!
# Dumping a playfield and loading the dump

The plain dump of a playfield is a program text again. It loads as the same playfield exactly when
three things hold (`ofSource?_text_eq_self_iff`): every cell is what the character that shows it
becomes, no cell is a line feed, and no row but the last ends in a carriage return, which would be
taken for a part of the line's end (`rows_intercalate`).

A text without carriage returns loads as such a playfield, and a program keeps it so as long as it
stores nothing but characters other than these two.
-/

namespace Funge

/-! ### Rows that are written with line feeds between them -/

namespace Lines

/-- What is read of a row that a line feed follows: a carriage return at its end is gone. -/
def withoutReturn (row : List Char) : List Char :=
  if row.getLast? = some '\r' then row.dropLast else row

theorem body_append_newline {row : List Char} (h : '\n' ∉ row) :
    body (row ++ ['\n']) = withoutReturn row := by
  rw [withoutReturn]
  by_cases hlast : row.getLast? = some '\r'
  · rw [if_pos hlast]
    obtain ⟨content, rfl⟩ := List.getLast?_eq_some_iff.mp hlast
    have hcontent : '\n' ∉ content := fun hmem => h (List.mem_append_left _ hmem)
    rw [List.append_assoc, List.dropLast_concat]
    exact Line.body_chars ⟨content, .returnAndFeed, hcontent, trivial⟩
  · rw [if_neg hlast]
    exact Line.body_chars ⟨row, .lineFeed, h, hlast⟩

theorem rows_append_newline {row rest : List Char} (h : '\n' ∉ row) :
    rows (row ++ '\n' :: rest) = withoutReturn row :: rows rest := by
  have hfirst : FirstLine '\n' (row ++ '\n' :: rest) (row ++ ['\n']) rest := .of_mark h
  have hne : row ++ ['\n'] ≠ [] := List.append_ne_nil_of_right_ne_nil _ (List.cons_ne_nil _ _)
  rw [rows, hfirst.pieces_eq hne, List.map_cons, body_append_newline h, rows]

theorem rows_of_newline_not_mem {row : List Char} (h : '\n' ∉ row) (hne : row ≠ []) :
    rows row = [row] := by
  have hbody : body (row ++ []) = row := Line.body_chars ⟨row, .endOfText, h, hne⟩
  rw [List.append_nil] at hbody
  rw [rows, (FirstLine.of_not_mem h).pieces_eq hne, pieces_nil, List.map_singleton, hbody]

/-- Rows that have line feeds between them are read as they are, except that each but the last loses
a carriage return at its end. -/
theorem rows_intercalate {written : List (List Char)} (hne : ∀ row ∈ written, row ≠ [])
    (hinside : ∀ row ∈ written, '\n' ∉ row) :
    rows (List.intercalate ['\n'] written) =
      written.mapIdx fun r row => if r + 1 < written.length then withoutReturn row else row := by
  induction written with
  | nil => rfl
  | cons row written ih =>
      rw [List.forall_mem_cons] at hne hinside
      cases written with
      | nil =>
          rw [List.intercalate_singleton, rows_of_newline_not_mem hinside.1 hne.1]
          rfl
      | cons next written =>
          rw [List.intercalate_cons_cons, List.append_assoc, List.singleton_append,
            rows_append_newline hinside.1, ih hne.2 hinside.2, List.mapIdx_cons]
          simp

end Lines

/-! ### The rows of a playfield -/

namespace Playfield

variable {f : Playfield}

/-- One row, from left to right. -/
def row (f : Playfield) (r : Nat) : List Cell :=
  (f.cells.extract (r * f.width) ((r + 1) * f.width)).toList

theorem rows_eq (f : Playfield) : f.rows = (List.range f.height).map f.row := rfl

theorem length_row {r : Nat} (h : r < f.height) : (f.row r).length = f.width := by
  have hend : (r + 1) * f.width ≤ f.height * f.width := Nat.mul_le_mul_right _ h
  rw [row, Array.length_toList, Array.size_extract, f.size_eq, Nat.min_eq_left hend, Nat.succ_mul,
    Nat.add_sub_cancel_left]

theorem getElem?_row_eq_some_iff {r c : Nat} (h : r < f.height) {cell : Cell} :
    (f.row r)[c]? = some cell ↔ f.read ⟨r, c⟩ = .ok cell := by
  rw [read_eq_ok_iff, contains_natCast]
  by_cases hc : c < f.width
  · have hplace : f.offset ⟨r, c⟩ = r * f.width + c := rfl
    have hplace_lt : f.offset ⟨r, c⟩ < f.cells.size := offset_lt (contains_natCast.mpr ⟨h, hc⟩)
    have hroom : c < min ((r + 1) * f.width) f.cells.size - r * f.width := by
      rw [hplace] at hplace_lt
      rw [Nat.succ_mul]
      omega
    rw [row, Array.getElem?_toList, Array.getElem?_extract, if_pos hroom, hplace]
    exact (and_iff_right ⟨h, hc⟩).symm
  · refine iff_of_false ?_ fun hread => hc hread.1.2
    rw [List.getElem?_eq_none (by rw [length_row h]; exact Nat.le_of_not_lt hc)]
    exact nofun

/-- The last character of a row shows the last cell. -/
theorem getLast?_shown_eq_some_iff {r : Nat} (h : r < f.height) {c : Char} :
    ((f.row r).map Cell.shown).getLast? = some c ↔
      ∃ cell, f.read ⟨r, f.width - 1⟩ = .ok cell ∧ cell.shown = c := by
  have hwidth := f.width_pos
  have hcol : (f.width : Int) - 1 = (f.width - 1 : Nat) := by omega
  rw [List.getLast?_eq_getElem?, List.length_map, length_row h, List.getElem?_map,
    Option.map_eq_some_iff, hcol]
  simp only [getElem?_row_eq_some_iff h]

/-- The rows as the characters that show them. -/
def shownRows (f : Playfield) : List (List Char) := f.rows.map fun row => row.map Cell.shown

@[simp] theorem length_shownRows (f : Playfield) : f.shownRows.length = f.height := by
  rw [shownRows, rows_eq, List.length_map, List.length_map, List.length_range]

theorem getElem?_shownRows {r : Nat} (h : r < f.height) :
    f.shownRows[r]? = some ((f.row r).map Cell.shown) := by
  rw [shownRows, rows_eq, List.map_map, List.getElem?_map, List.getElem?_range h]
  rfl

theorem exists_of_mem_shownRows {written : List Char} (h : written ∈ f.shownRows) :
    ∃ r < f.height, written = (f.row r).map Cell.shown := by
  obtain ⟨r, hr⟩ := List.mem_iff_getElem?.mp h
  obtain ⟨hlt, -⟩ := List.getElem?_eq_some_iff.mp hr
  rw [length_shownRows] at hlt
  rw [getElem?_shownRows hlt] at hr
  exact ⟨r, hlt, (Option.some.inj hr).symm⟩

theorem length_of_mem_shownRows {written : List Char} (h : written ∈ f.shownRows) :
    written.length = f.width := by
  obtain ⟨r, hr, rfl⟩ := exists_of_mem_shownRows h
  rw [List.length_map, length_row hr]

/-- Every character of the dump shows a cell. -/
theorem exists_read_of_mem {written : List Char} {c : Char} (h : written ∈ f.shownRows)
    (hc : c ∈ written) : ∃ p cell, f.read p = .ok cell ∧ cell.shown = c := by
  obtain ⟨r, hr, rfl⟩ := exists_of_mem_shownRows h
  obtain ⟨cell, hcell, hshown⟩ := List.mem_map.mp hc
  obtain ⟨col, hcol⟩ := List.mem_iff_getElem?.mp hcell
  exact ⟨⟨r, col⟩, cell, (getElem?_row_eq_some_iff hr).mp hcol, hshown⟩

/-- The dump of a playfield is read as the rows that are shown, except that each but the last loses a
carriage return at its end. -/
theorem rows_text (h : ∀ p cell, f.read p = .ok cell → cell.shown ≠ '\n') :
    Lines.rows f.text.toList = f.shownRows.mapIdx fun r written =>
      if r + 1 < f.height then Lines.withoutReturn written else written := by
  have hne : ∀ written ∈ f.shownRows, written ≠ [] := by
    rintro written hwritten rfl
    exact absurd (length_of_mem_shownRows hwritten) (Nat.ne_of_lt f.width_pos)
  have hinside : ∀ written ∈ f.shownRows, '\n' ∉ written := by
    intro written hwritten hmem
    obtain ⟨p, cell, hread, hshown⟩ := exists_read_of_mem hwritten hmem
    exact h p cell hread hshown
  rw [text, String.toList_ofList, ← length_shownRows]
  exact Lines.rows_intercalate hne hinside

/-! ### Dumps that load -/

/-- A playfield that its dump tells: every cell is what the character that shows it becomes, no cell
is a line feed, and no row but the last ends in a carriage return. -/
structure Legible (f : Playfield) : Prop where
  shown : ∀ p cell, f.read p = .ok cell → cell = .ofChar cell.shown
  noLineFeed : ∀ p, f.read p ≠ .ok (.other 10)
  noReturn : ∀ r : Nat, r + 1 < f.height → f.read ⟨r, f.width - 1⟩ ≠ .ok (.other 13)

/-- A playfield of cells that are what their characters become lays out its own rows. -/
theorem laysOut_shownRows (h : ∀ p cell, f.read p = .ok cell → cell = .ofChar cell.shown) :
    f.LaysOut f.shownRows where
  height := f.length_shownRows.symm
  fits written hwritten := Nat.le_of_eq (length_of_mem_shownRows hwritten)
  attained := by
    have hfirst := List.mem_of_getElem? (getElem?_shownRows f.height_pos)
    exact ⟨_, hfirst, length_of_mem_shownRows hfirst⟩
  written r c written char hwritten hchar := by
    obtain ⟨hr, -⟩ := List.getElem?_eq_some_iff.mp hwritten
    rw [length_shownRows] at hr
    rw [getElem?_shownRows hr, Option.some.injEq] at hwritten
    subst hwritten
    rw [List.getElem?_map, Option.map_eq_some_iff] at hchar
    obtain ⟨cell, hcell, rfl⟩ := hchar
    have hread := (getElem?_row_eq_some_iff hr).mp hcell
    rw [hread, ← h _ cell hread]
  behind r c written hwritten hend hc := by
    rw [length_of_mem_shownRows (List.mem_of_getElem? hwritten)] at hend
    exact absurd hc (Nat.not_lt_of_le hend)

theorem Legible.shown_ne_newline (h : f.Legible) {p : Position} {cell : Cell}
    (hread : f.read p = .ok cell) : cell.shown ≠ '\n' := by
  intro hshown
  have hcell := h.shown p cell hread
  rw [hshown] at hcell
  exact h.noLineFeed p (hread.trans (congrArg Except.ok hcell))

/-- A row that is not the last keeps all of its characters when it is read again. -/
theorem Legible.withoutReturn_eq (h : f.Legible) {r : Nat} (hr : r + 1 < f.height) :
    Lines.withoutReturn ((f.row r).map Cell.shown) = (f.row r).map Cell.shown := by
  refine if_neg fun hlast => ?_
  obtain ⟨cell, hread, hshown⟩ := (getLast?_shown_eq_some_iff (by omega)).mp hlast
  have hcell := h.shown _ cell hread
  rw [hshown] at hcell
  exact h.noReturn r hr (hread.trans (congrArg Except.ok hcell))

theorem Legible.rows_text_eq (h : f.Legible) : Lines.rows f.text.toList = f.shownRows := by
  rw [rows_text fun p cell hread => h.shown_ne_newline hread]
  refine List.ext_getElem? fun r => ?_
  rw [List.getElem?_mapIdx]
  by_cases hr : r < f.height
  · rw [getElem?_shownRows hr, Option.map_some]
    split
    · next hlast => rw [h.withoutReturn_eq hlast]
    · rfl
  · rw [List.getElem?_eq_none (by rw [length_shownRows]; exact Nat.le_of_not_lt hr)]
    rfl

/-- What a text loads as is legible in the dump. -/
theorem legible_of_ofSource?_text (h : ofSource? f.text = some f) : f.Legible := by
  have hlays : f.LaysOut (Lines.rows f.text.toList) := ofRows?_ofChar_eq_some_iff.mp h
  have hshown : ∀ p cell, f.read p = .ok cell → cell = .ofChar cell.shown := by
    intro p cell hread
    obtain ⟨char, rfl, -⟩ := hlays.exists_char hread
    rw [Cell.shown_ofChar]
  have hnewline : ∀ p cell, f.read p = .ok cell → cell.shown ≠ '\n' := by
    intro p cell hread
    obtain ⟨char, rfl, rfl | ⟨line, hline, hchar⟩⟩ := hlays.exists_char hread
    · decide
    · rw [Cell.shown_ofChar]
      exact (Lines.mem_of_mem_rows hline hchar).2
  refine ⟨hshown, ?_, ?_⟩
  · intro p hread
    exact hnewline p _ hread (by decide)
  · intro r hr hread
    -- The row ends in a carriage return, which is not read, so a blank stands there instead.
    have hrow : r < f.height := by omega
    have hlast := (getLast?_shown_eq_some_iff hrow).mpr ⟨_, hread, (rfl : _ = '\r')⟩
    have hwritten : (Lines.rows f.text.toList)[r]? =
        some ((f.row r).map Cell.shown).dropLast := by
      rw [rows_text hnewline, List.getElem?_mapIdx, getElem?_shownRows hrow, Option.map_some,
        if_pos hr, Lines.withoutReturn, if_pos hlast]
    have hwidth := f.width_pos
    have hlength : ((f.row r).map Cell.shown).dropLast.length = f.width - 1 := by
      rw [List.length_dropLast, List.length_map, length_row hrow]
    have hblank := hlays.behind r (f.width - 1) _ hwritten (Nat.le_of_eq hlength) (by omega)
    have hcol : (f.width : Int) - 1 = (f.width - 1 : Nat) := by omega
    rw [hcol, hblank] at hread
    cases hread

/-- A dump loads as the playfield it was made of exactly when it tells the playfield. -/
theorem ofSource?_text_iff_legible : ofSource? f.text = some f ↔ f.Legible := by
  refine ⟨legible_of_ofSource?_text, fun h => ?_⟩
  have hlays := laysOut_shownRows h.shown
  rw [← h.rows_text_eq] at hlays
  exact ofRows?_ofChar_eq_some_iff.mpr hlays

/-! ### Programs that keep a playfield legible -/

/-- A playfield of characters that end no line is legible. -/
theorem legible_of_chars (h : ∀ p cell, f.read p = .ok cell →
    ∃ char, cell = .ofChar char ∧ char ≠ '\n' ∧ char ≠ '\r') : f.Legible where
  shown p cell hread := by
    obtain ⟨char, rfl, -, -⟩ := h p cell hread
    rw [Cell.shown_ofChar]
  noLineFeed p hread := by
    obtain ⟨char, hcell, hnewline, -⟩ := h p _ hread
    refine hnewline ?_
    rw [← Cell.shown_ofChar char, ← hcell]
    rfl
  noReturn r _ hread := by
    obtain ⟨char, hcell, -, hreturn⟩ := h _ _ hread
    refine hreturn ?_
    rw [← Cell.shown_ofChar char, ← hcell]
    rfl

/-- What a text without carriage returns loads as has only characters that end no line. -/
theorem exists_char_of_ofSource? {source : String} (h : ofSource? source = some f)
    (hsource : '\r' ∉ source.toList) {p : Position} {cell : Cell} (hread : f.read p = .ok cell) :
    ∃ char, cell = .ofChar char ∧ char ≠ '\n' ∧ char ≠ '\r' := by
  have hlays : f.LaysOut (Lines.rows source.toList) := ofRows?_ofChar_eq_some_iff.mp h
  obtain ⟨char, rfl, rfl | ⟨line, hline, hchar⟩⟩ := hlays.exists_char hread
  · exact ⟨' ', rfl, by decide, by decide⟩
  · obtain ⟨hmem, hnewline⟩ := Lines.mem_of_mem_rows hline hchar
    refine ⟨char, rfl, hnewline, ?_⟩
    rintro rfl
    exact hsource hmem

variable {σ : Type} [Host σ]

/-- A run that stores only characters that end no line leaves a playfield with no other ones, if it
started on one. -/
theorem exists_char_stepN {n : Nat} {m : Machine} {host : σ}
    (hstart : ∀ p cell, m.playfield.read p = .ok cell →
      ∃ char, cell = .ofChar char ∧ char ≠ '\n' ∧ char ≠ '\r')
    (hstores : ∀ stored ∈ Machine.stores n m host,
      stored.2 ≠ 10 ∧ stored.2 ≠ 13 ∧ ∃ char, CodePoint.value char = stored.2)
    {p : Position} {cell : Cell}
    (hread : (Machine.stepN n m host).1.playfield.read p = .ok cell) :
    ∃ char, cell = .ofChar char ∧ char ≠ '\n' ∧ char ≠ '\r' := by
  rw [Machine.read_stepN] at hread
  cases hlast : Machine.lastStored? n m host p with
  | none =>
      rw [hlast] at hread
      exact hstart p cell hread
  | some v =>
      rw [hlast] at hread
      obtain rfl := Except.ok.inj hread
      obtain ⟨later, earlier, hsplit, -⟩ := List.lookup_eq_some_iff.mp hlast
      have hmem : (p, v) ∈ Machine.stores n m host := by
        rw [hsplit]
        exact List.mem_append_right _ List.mem_cons_self
      obtain ⟨hnewline, hreturn, char, rfl⟩ := hstores _ hmem
      refine ⟨char, Cell.ofValue_value char, ?_, ?_⟩
      · rintro rfl
        exact hnewline rfl
      · rintro rfl
        exact hreturn rfl

/-- The dump of a playfield loads as that playfield exactly if every cell is what the character that
shows it becomes, no cell is a line feed, and no row but the last ends in a carriage return. So it
does after any run of any program that is loaded from a text without carriage returns, as long as
the run stores no line feed, no carriage return, and no value that is not a character. -/
theorem ofSource?_text_eq_self_iff :
    (∀ f : Playfield, ofSource? f.text = some f ↔
      (∀ p cell, f.read p = .ok cell → cell = .ofChar cell.shown) ∧
      (∀ p, f.read p ≠ .ok (.other 10)) ∧
      ∀ r : Nat, r + 1 < f.height → f.read ⟨r, f.width - 1⟩ ≠ .ok (.other 13)) ∧
    ∀ (source : String) (f : Playfield) (seed : UInt64) (budget : Option UInt64) (host : σ) (n : Nat),
      ofSource? source = some f → '\r' ∉ source.toList →
      (∀ stored ∈ Machine.stores n (Machine.start f seed budget) host,
        stored.2 ≠ 10 ∧ stored.2 ≠ 13 ∧ ∃ char, CodePoint.value char = stored.2) →
      let g := (Machine.stepN n (Machine.start f seed budget) host).1.playfield
      ofSource? g.text = some g := by
  constructor
  · intro f
    rw [ofSource?_text_iff_legible]
    constructor
    · intro h
      exact ⟨h.shown, h.noLineFeed, h.noReturn⟩
    · rintro ⟨hshown, hnewline, hreturn⟩
      exact ⟨hshown, hnewline, hreturn⟩
  · intro source f seed budget host n hload hsource hstores g
    rw [ofSource?_text_iff_legible]
    refine legible_of_chars fun p cell hread => ?_
    exact exists_char_stepN (m := Machine.start f seed budget)
      (fun _ _ => exists_char_of_ofSource? hload hsource) hstores hread

/-- A program that writes the instruction to halt into its last cell is dumped with it, and the dump
loads as the program that it has become. -/
theorem ofSource?_text_eq_self_of_selfModification :
    let source := "\x22@\x2206p \n1"
    let f : Playfield := ⟨2, 7, #[.instruction .stringMode, .instruction .halt,
      .instruction .stringMode, .digit 0, .digit 6, .instruction .put, .blank,
      .digit 1, .blank, .blank, .blank, .blank, .blank, .blank], by decide, by decide, rfl⟩
    let host := Console.ofInput [] {}
    let g := (Machine.stepN 7 (Machine.start f 0 none) host).1.playfield
    ofSource? source = some f ∧ '\r' ∉ source.toList ∧
      Machine.stores 7 (Machine.start f 0 none) host = [(⟨0, 6⟩, 64)] ∧
      g.read ⟨0, 6⟩ = .ok (.instruction .halt) ∧ ofSource? g.text = some g := by
  intro source f host g
  have hload : ofSource? source = some f := by decide
  have hsource : '\r' ∉ source.toList := by decide
  have hstores : Machine.stores 7 (Machine.start f 0 none) host = [(⟨0, 6⟩, 64)] := by decide
  have hhalt : g.read ⟨0, 6⟩ = .ok (.instruction .halt) := by
    rw [read_eq_ok_iff]
    decide
  refine ⟨hload, hsource, hstores, hhalt, ?_⟩
  refine ofSource?_text_eq_self_iff.2 source f 0 none host 7 hload hsource fun stored hstored => ?_
  rw [hstores, List.mem_singleton] at hstored
  subst hstored
  exact ⟨by decide, by decide, '@', rfl⟩

end Playfield

end Funge
