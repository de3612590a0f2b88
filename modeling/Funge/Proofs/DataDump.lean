import Mathlib.Data.List.Nodup
import Funge.Proofs.CommandLine
import Funge.Proofs.Reloading

/-!
# The data dump loses nothing

The data dump of a playfield is one long text without any lengths in it, and to know the playfield
from it is to know where each part ends. What is written is `SelfDelimiting` if the text tells that
by itself, whatever comes after it. Numerals are so with the comma behind them, a field because of
the quote behind its name and the line feed behind its value, and so is a cell. As soon as the width
and the height are known, so is the number of cells, and then the cells are known one by one
(`SelfDelimiting.eq_of_intercalate`).

The plain dump shows of a cell no more than a character. It does not change when a cell gives way to
one that is shown alike (`text_write`).
-/

namespace Funge

/-! ### Texts that end by themselves -/

/-- A way to write things such that the text tells what is written and where it ends, whatever comes
after it. -/
def SelfDelimiting {α : Type} (write : α → List Char) : Prop :=
  ∀ ⦃a b : α⦄ ⦃rest rest' : List Char⦄, write a ++ rest = write b ++ rest' → a = b ∧ rest = rest'

/-- A number of things with a fixed text between them are known from the text. -/
theorem SelfDelimiting.eq_of_intercalate {α : Type} {write : α → List Char}
    (h : SelfDelimiting write) {sep rest rest' : List Char} {xs ys : List α}
    (hlength : xs.length = ys.length)
    (htext : List.intercalate sep (xs.map write) ++ rest =
      List.intercalate sep (ys.map write) ++ rest') : xs = ys := by
  induction xs generalizing ys with
  | nil => exact (List.length_eq_zero_iff.mp hlength.symm).symm
  | cons x xs ih =>
      obtain ⟨y, ys, rfl⟩ := List.exists_cons_of_length_eq_add_one hlength.symm
      have hmany : xs.length = ys.length := Nat.succ.inj hlength
      cases xs with
      | nil =>
          obtain rfl := List.length_eq_zero_iff.mp hmany.symm
          simp only [List.map_singleton, List.intercalate_singleton] at htext
          rw [(h htext).1]
      | cons x' xs =>
          obtain ⟨y', ys, rfl⟩ := List.exists_cons_of_length_eq_add_one hmany.symm
          simp only [List.map_cons, List.intercalate_cons_cons, List.append_assoc] at htext
          obtain ⟨rfl, hmore⟩ := h htext
          rw [ih hmany (List.append_cancel_left hmore)]

/-! ### Numerals and names -/

namespace Decimal

theorem not_mem_print {i : Int} {mark : Char} (hsign : mark ≠ '-') (hdigit : mark.isDigit = false) :
    mark ∉ print i := by
  intro h
  rcases mem_print h with h | h
  · exact hsign h
  · exact Bool.false_ne_true (hdigit.symm.trans h)

/-- A numeral ends at a comma. -/
theorem selfDelimiting_print : SelfDelimiting fun i => print i ++ [','] := by
  intro i j rest rest' h
  simp only [List.append_assoc, List.singleton_append] at h
  obtain ⟨hprint, hrest⟩ :=
    FirstLine.append_mark_inj (not_mem_print (by decide) rfl) (not_mem_print (by decide) rfl) h
  exact ⟨print_injective hprint, hrest⟩

end Decimal

namespace Instruction

theorem name_injective {i j : Instruction} (h : i.name = j.name) : i = j := by
  have hnodup : (all.map name).Nodup := by decide
  exact List.inj_on_of_nodup_map hnodup (mem_all i) (mem_all j) h

theorem newline_not_mem_name (i : Instruction) : '\n' ∉ i.name.toList := by
  cases i <;> decide

end Instruction

/-! ### Cells -/

namespace Cell

/-- The field that shows a cell. Its name has no quote in it, and its value no line feed. -/
@[ext]
structure Field where
  name : String
  value : List Char
  quote_not_mem : '\x22' ∉ name.toList
  newline_not_mem : '\n' ∉ value

namespace Field

/-- An object with this field. -/
def json (field : Field) : List Char := Cell.json.field field.name field.value

theorem selfDelimiting_json : SelfDelimiting json := by
  intro a b rest rest' h
  have hjson : ∀ field : Field, ∀ rest, field.json ++ rest =
      "    \x7b\n      \"".toList ++ (field.name.toList ++ '\x22' :: (": ".toList ++
        (field.value ++ '\n' :: ("    \x7d".toList ++ rest)))) := by
    intro field rest
    have hname : "\": ".toList = '\x22' :: ": ".toList := rfl
    have hvalue : "\n    \x7d".toList = '\n' :: "    \x7d".toList := rfl
    unfold json Cell.json.field
    simp only [hname, hvalue, List.append_assoc, List.cons_append]
  rw [hjson, hjson, List.append_right_inj] at h
  obtain ⟨hname, hbehind⟩ := FirstLine.append_mark_inj a.quote_not_mem b.quote_not_mem h
  rw [List.append_right_inj] at hbehind
  obtain ⟨hvalue, hend⟩ := FirstLine.append_mark_inj a.newline_not_mem b.newline_not_mem hbehind
  exact ⟨Field.ext (String.toList_inj.mp hname) hvalue, List.append_cancel_left hend⟩

end Field

/-- The field that shows a cell, named for the sort of cell. A blank has none. -/
def field? : Cell → Option Field
  | digit d => some ⟨"Digit", Decimal.print d.toNat, by decide,
      Decimal.not_mem_print (by decide) rfl⟩
  | instruction i => some ⟨"Op", '\x22' :: i.name.toList ++ ['\x22'], by decide, by
      simp [Instruction.newline_not_mem_name]⟩
  | other v => some ⟨"Character", Decimal.print v.toInt, by decide,
      Decimal.not_mem_print (by decide) rfl⟩
  | blank => none

theorem json_of_field? {cell : Cell} {field : Field} (h : cell.field? = some field) :
    cell.json = field.json := by
  cases cell <;> cases h <;> rfl

theorem json_of_field?_eq_none {cell : Cell} (h : cell.field? = none) :
    cell.json = "    \"Blank\"".toList := by
  cases cell <;> cases h
  rfl

theorem field?_injective {c c' : Cell} (h : c.field? = c'.field?) : c = c' := by
  cases c <;> cases c'
  case digit.digit d d' =>
    obtain ⟨-, hvalue⟩ := Field.mk.inj (Option.some.inj h)
    rw [UInt8.toNat_inj.mp (Int.ofNat.inj (Decimal.print_injective hvalue))]
  case instruction.instruction i i' =>
    obtain ⟨-, hvalue⟩ := Field.mk.inj (Option.some.inj h)
    obtain ⟨-, hname⟩ := List.cons.inj (List.append_cancel_right hvalue)
    rw [Instruction.name_injective (String.toList_inj.mp hname)]
  case other.other v v' =>
    obtain ⟨-, hvalue⟩ := Field.mk.inj (Option.some.inj h)
    rw [Int64.toInt_inj.mp (Decimal.print_injective hvalue)]
  case blank.blank => rfl
  -- The fields of cells of different sorts have different names.
  all_goals simp [field?] at h

/-- After the spaces there is a quote in one text and a brace in the other. -/
theorem blank_append_ne_json (field : Field) (rest rest' : List Char) :
    "    \"Blank\"".toList ++ rest ≠ field.json ++ rest' := by
  intro h
  cases h

/-- A cell can be told from the text of its element of the list. -/
theorem selfDelimiting_json : SelfDelimiting json := by
  intro c c' rest rest' h
  cases hc : c.field? <;> cases hc' : c'.field?
  case none.none =>
    rw [json_of_field?_eq_none hc, json_of_field?_eq_none hc'] at h
    exact ⟨field?_injective (hc.trans hc'.symm), List.append_cancel_left h⟩
  case none.some field' =>
    rw [json_of_field?_eq_none hc, json_of_field? hc'] at h
    exact absurd h (blank_append_ne_json field' rest rest')
  case some.none field =>
    rw [json_of_field? hc, json_of_field?_eq_none hc'] at h
    exact absurd h.symm (blank_append_ne_json field rest' rest)
  case some.some field field' =>
    rw [json_of_field? hc, json_of_field? hc'] at h
    obtain ⟨rfl, hrest⟩ := Field.selfDelimiting_json h
    exact ⟨field?_injective (hc.trans hc'.symm), hrest⟩

end Cell

namespace Playfield

/-- The data dump with the marks behind the numerals. -/
theorem toList_json (f : Playfield) : f.json.toList =
    "\x7b\n  \"width\": ".toList ++ ((Decimal.print f.width ++ [',']) ++
      ("\n  \"height\": ".toList ++ ((Decimal.print f.height ++ [',']) ++
        ("\n  \"cells\": [\n".toList ++
          (List.intercalate [',', '\n'] (f.cells.toList.map Cell.json) ++
            "\n  ]\n\x7d".toList))))) := by
  have hwidth : ",\n  \"height\": ".toList = [','] ++ "\n  \"height\": ".toList := rfl
  have hheight : ",\n  \"cells\": [\n".toList = [','] ++ "\n  \"cells\": [\n".toList := rfl
  unfold json jsonChars
  simp only [String.toList_ofList, hwidth, hheight, List.append_assoc]

/-- The playfield is read off the dump from front to back. -/
theorem json_injective {f g : Playfield} (h : f.json = g.json) : f = g := by
  have htext := congrArg String.toList h
  rw [toList_json, toList_json, List.append_right_inj] at htext
  obtain ⟨hwidth, htext⟩ := Decimal.selfDelimiting_print htext
  rw [List.append_right_inj] at htext
  obtain ⟨hheight, htext⟩ := Decimal.selfDelimiting_print htext
  rw [List.append_right_inj] at htext
  have hwidth : f.width = g.width := Int.ofNat.inj hwidth
  have hheight : f.height = g.height := Int.ofNat.inj hheight
  -- Now the numbers of cells are known to be equal, and the lists can be compared cell by cell.
  have hsize : f.cells.toList.length = g.cells.toList.length := by
    rw [Array.length_toList, Array.length_toList, f.size_eq, g.size_eq, hwidth, hheight]
  have hcells := Cell.selfDelimiting_json.eq_of_intercalate hsize htext
  obtain ⟨height, width, cells, _, _, _⟩ := f
  obtain ⟨_, _, _, _, _, _⟩ := g
  obtain rfl : height = _ := hheight
  obtain rfl : width = _ := hwidth
  obtain rfl : cells = _ := Array.toList_inj.mp hcells
  rfl

/-! ### What the plain dump loses -/

theorem shownRows_eq (f : Playfield) : f.shownRows = (List.range f.height).map fun r =>
    ((f.cells.map Cell.shown).extract (r * f.width) ((r + 1) * f.width)).toList := by
  simp only [shownRows, rows, List.map_map, ← Array.map_extract, Array.toList_map]
  rfl

/-- The plain dump shows the shape and one character for each cell. -/
theorem text_congr {f g : Playfield} (hheight : g.height = f.height) (hwidth : g.width = f.width)
    (hshown : g.cells.map Cell.shown = f.cells.map Cell.shown) : g.text = f.text := by
  have hrows : g.shownRows = f.shownRows := by
    rw [shownRows_eq, shownRows_eq, hheight, hwidth, hshown]
  exact congrArg (fun rows => String.ofList (List.intercalate ['\n'] rows)) hrows

/-- The plain dump does not change when a cell gives way to one that is shown alike. -/
theorem text_write {f g : Playfield} {p : Position} {cell cell' : Cell}
    (hread : f.read p = .ok cell) (hshown : cell'.shown = cell.shown)
    (hwrite : f.write p cell' = .ok g) : g.text = f.text := by
  obtain ⟨-, hheight, hwidth, hcells⟩ := of_write_eq_ok hwrite
  refine text_congr hheight hwidth (Array.ext_getElem? fun i => ?_)
  rw [Array.getElem?_map, Array.getElem?_map, hcells]
  split
  · next hi =>
    subst hi
    rw [(read_eq_ok_iff.mp hread).2, Option.map_some, Option.map_some, hshown]
  · rfl

/-! ### What is printed -/

/-- The bytes that are printed to show a playfield, by its data or by its characters. -/
def printed (f : Playfield) (json : Bool) : List UInt8 :=
  Utf8.encode ((if json then f.json else f.text) ++ "\n").toList

theorem printed_eq_iff {f g : Playfield} : f.printed true = g.printed true ↔ f = g := by
  refine ⟨fun h => ?_, fun h => by rw [h]⟩
  have htext := Utf8.encode_injective h
  rw [String.toList_append, String.toList_append] at htext
  exact json_injective (String.toList_inj.mp (List.append_cancel_right htext))

end Playfield

namespace Command

/-- The arguments that show a file, by its data or by its characters. -/
def dumpArguments (file : String) (json : Bool) : List String :=
  "grid" :: file :: if json then ["--json"] else []

/-- A mark that is not there yet is taken down. -/
theorem Options.read_mark {options : Options} {g : Given} {argument name : String}
    (h : Word.ofString argument = .long name none)
    (hmark : name ≠ "help" ∧ options.marks.contains name = true)
    (hfirst : g.marks.contains name = false) (rest : List String) :
    options.read g (argument :: rest) = options.read { g with marks := name :: g.marks } rest := by
  have hgiven : g.withMark name = .ok { g with marks := name :: g.marks } := by
    simp only [Given.withMark, hfirst, Bool.false_eq_true, if_false]
  simp only [read, h, hmark, hgiven, if_true, if_false]
  rfl

theorem ofArguments_dumpArguments {file : String} (hfile : isPlain file = true) (hne : file ≠ "")
    (json : Bool) : Request.ofArguments (dumpArguments file json) = .ok (.grid file json) := by
  have hjson : Word.ofString "--json" = .long "json" none := by decide
  have hcommand (rest : List String) :
      Request.ofArguments ("grid" :: rest) = Request.ofGridArguments rest := rfl
  have hread (rest : List String) : gridOptions.read {} (file :: rest) =
      gridOptions.read ⟨some file, [], []⟩ rest :=
    Options.read_plain hfile (withFile_empty hne)
  cases json with
  | false =>
      simp only [dumpArguments, hcommand, Request.ofGridArguments, hread]
      rfl
  | true =>
      have hmark : gridOptions.read ⟨some file, [], []⟩ ["--json"] =
          gridOptions.read ⟨some file, [], ["json"]⟩ [] :=
        Options.read_mark hjson (by decide) rfl []
      simp only [dumpArguments, hcommand, Request.ofGridArguments, if_true, hread, hmark]
      rfl

theorem exists_exits_of_grid {arguments : List String} {s : Surroundings} {file source : String}
    {json : Bool} {f : Playfield} (h : Request.ofArguments arguments = .ok (.grid file json))
    (hholds : (s.files file).Holds source) (hload : Playfield.ofSource? source = some f) :
    ∃ outcome, Exits arguments s outcome ∧ outcome.code = 0 ∧ outcome.stdout = f.printed json := by
  have hbegin : begin arguments s = .error (showGrid s file json) := by simp only [begin, h]
  refine ⟨_, (exits_iff_of_begin_error hbegin).mpr rfl, ?_⟩
  simp only [showGrid, load_of_playfield hholds hload]
  exact ⟨rfl, rfl⟩

end Command

namespace Playfield

/-- The data dump loses nothing, and the plain dump does. What is printed for the data of two
playfields is the same only if they are the same playfield, in its shape and in every cell, whatever
they were built from and whatever was written into them. This is what the command line prints, in
either form, for the playfield in a file. The plain form stays as it is when any cell is replaced by
another one that the same character shows, though that is another playfield. -/
theorem data_dump_determines_playfield :
    (∀ f g : Playfield, f.printed true = g.printed true ↔ f = g) ∧
    (∀ file json, Command.isPlain file = true → file ≠ "" →
      Command.Request.ofArguments (Command.dumpArguments file json) = .ok (.grid file json)) ∧
    (∀ (arguments : List String) (s : Command.Surroundings) file source json f,
      Command.Request.ofArguments arguments = .ok (.grid file json) →
      (s.files file).Holds source → ofSource? source = some f →
      ∃ outcome, Command.Exits arguments s outcome ∧ outcome.code = 0 ∧
        outcome.stdout = f.printed json) ∧
    (∀ (f : Playfield) p cell cell', f.read p = .ok cell → cell'.shown = cell.shown →
      cell' ≠ cell → ∃ g, f.write p cell' = .ok g ∧ g ≠ f ∧ g.printed false = f.printed false) := by
  refine ⟨fun f g => printed_eq_iff, fun file json hfile hne => ?_, ?_, ?_⟩
  · exact Command.ofArguments_dumpArguments hfile hne json
  · intro arguments s file source json f hrequest hholds hload
    exact Command.exists_exits_of_grid hrequest hholds hload
  · intro f p cell cell' hread hshown hne
    obtain ⟨g, hwrite⟩ := exists_write (contains_of_read hread) cell'
    refine ⟨g, hwrite, ?_, ?_⟩
    · rintro rfl
      exact hne (Except.ok.inj ((read_write_self hwrite).symm.trans hread))
    · simp only [printed, Bool.false_eq_true, if_false, text_write hread hshown hwrite]

/-- A digit and the mere code point of its character are told apart by the data dump only. -/
theorem data_dump_determines_playfield_of_lookalikes :
    let f : Playfield := ⟨1, 1, #[.digit 1], by decide, by decide, rfl⟩
    let s : Command.Surroundings := ⟨fun _ => .bytes [49], [], none, 0, ""⟩
    (∃ outcome, Command.Exits (Command.dumpArguments "a.bf" true) s outcome ∧ outcome.code = 0 ∧
      outcome.stdout = f.printed true) ∧
    ∃ g, f.write ⟨0, 0⟩ (.other 49) = .ok g ∧ g.printed true ≠ f.printed true ∧
      g.printed false = f.printed false := by
  intro f s
  obtain ⟨hdata, hrequest, hprints, hplain⟩ := data_dump_determines_playfield
  refine ⟨?_, ?_⟩
  · have hasked := hrequest "a.bf" true (by decide) (by decide)
    exact hprints _ s "a.bf" "1" true f hasked rfl (by decide)
  · obtain ⟨g, hwrite, hne, hshown⟩ :=
      hplain f ⟨0, 0⟩ (.digit 1) (.other 49) (by decide) (by decide) (by decide)
    exact ⟨g, hwrite, fun h => hne ((hdata g f).mp h), hshown⟩

end Playfield

end Funge
