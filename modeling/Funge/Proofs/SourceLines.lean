import Mathlib.Logic.ExistsUnique
import Funge.Proofs.FirstLine
import Funge.Proofs.Loading

/-!
# A program is loaded line by line

Every text is a sequence of lines in exactly one way (`existsUnique_cutInto`): a line ends with a line
feed, or with a carriage return and a line feed, and only the last one can end with the text. A
carriage return belongs to the end of a line where a line feed follows it, and to the line itself
everywhere else.

The rows of a playfield are the lines without their ends, one cell for each character. So a playfield
does not show which ends its lines had, nor the spaces at the end of a line that is not the longest.
-/

namespace Funge

/-! ### Lines and their ends -/

namespace Lines

/-- How a line ends. -/
inductive Terminator where
  | lineFeed
  | returnAndFeed
  /-- The text ends, too. -/
  | endOfText
deriving DecidableEq, Repr

namespace Terminator

/-- The characters that end the line. -/
def chars : Terminator → List Char
  | lineFeed => ['\n']
  | returnAndFeed => ['\r', '\n']
  | endOfText => []

/-- What a line can have on it that ends so. A carriage return before a line feed is not on the line,
and at the end of the text begins no line that has nothing on it. -/
def Admits (content : List Char) : Terminator → Prop
  | lineFeed => content.getLast? ≠ some '\r'
  | returnAndFeed => True
  | endOfText => content ≠ []

end Terminator

/-- A line of a text: what is on it, and how it ends. -/
structure Line where
  content : List Char
  terminator : Terminator
  newline_not_mem : '\n' ∉ content
  admits : terminator.Admits content

namespace Line

/-- The characters of a line, those that end it included. -/
def chars (line : Line) : List Char := line.content ++ line.terminator.chars

end Line

/-- A text is some lines one after another, and only the last of them ends with the text. -/
structure CutInto (text : List Char) (lines : List Line) : Prop where
  joined : text = lines.flatMap Line.chars
  terminated : ∀ line ∈ lines.dropLast, line.terminator ≠ .endOfText

/-- Only a mark at the end, and a carriage return right before it, are no part of the body. -/
theorem body_cons {c : Char} {rest : List Char} (hfeed : c = '\n' → rest ≠ [])
    (hreturn : c = '\r' → rest ≠ ['\n']) : body (c :: rest) = c :: body rest := by
  rw [body]
  · rintro rfl rfl
    exact hfeed rfl rfl
  · rintro rfl rfl
    exact hreturn rfl rfl

/-- What stands before the last line feed belongs to the body, unless it is a carriage return right
before it. -/
theorem body_append {content ending : List Char} (h : '\n' ∉ content)
    (hlast : content.getLast? = some '\r' → ending ≠ ['\n']) :
    body (content ++ ending) = content ++ body ending := by
  induction content with
  | nil => rfl
  | cons c content ih =>
      rw [List.mem_cons, not_or] at h
      rw [List.cons_append, List.cons_append, body_cons]
      · rw [ih h.2 fun hreturn => hlast ?_]
        rw [List.getLast?_cons, hreturn]
        rfl
      · intro hc
        exact absurd hc.symm h.1
      · rintro rfl heq
        cases content with
        | nil => exact hlast rfl heq
        | cons d content =>
            obtain ⟨rfl, -⟩ := List.cons.inj heq
            exact h.2 List.mem_cons_self

namespace Line

variable {line line' : Line}

/-- A line without what ends it. -/
@[simp] theorem body_chars (line : Line) : body line.chars = line.content := by
  have hending : body line.terminator.chars = [] := by cases line.terminator <;> rfl
  have hlast : line.content.getLast? = some '\r' → line.terminator.chars ≠ ['\n'] := by
    intro hreturn hfeed
    have hadmits := line.admits
    cases hterminator : line.terminator with
    | lineFeed =>
        rw [hterminator] at hadmits
        exact hadmits hreturn
    | returnAndFeed =>
        rw [hterminator] at hfeed
        cases hfeed
    | endOfText =>
        rw [hterminator] at hfeed
        cases hfeed
  rw [chars, body_append line.newline_not_mem hlast, hending, List.append_nil]

theorem chars_ne_nil (line : Line) : line.chars ≠ [] := by
  intro hnil
  obtain ⟨hcontent, hending⟩ := List.append_eq_nil_iff.mp hnil
  have hadmits := line.admits
  cases hterminator : line.terminator with
  | endOfText =>
      rw [hterminator] at hadmits
      exact hadmits hcontent
  | lineFeed =>
      rw [hterminator] at hending
      cases hending
  | returnAndFeed =>
      rw [hterminator] at hending
      cases hending

/-- The mark is the last character of a line or none. -/
theorem newline_not_mem_dropLast (line : Line) : '\n' ∉ line.chars.dropLast := by
  have hending : '\n' ∉ line.terminator.chars.dropLast := by
    cases line.terminator <;> decide
  intro hmem
  rw [chars, List.dropLast_append] at hmem
  split at hmem
  · exact line.newline_not_mem (List.dropLast_subset _ hmem)
  · rcases List.mem_append.mp hmem with hmem | hmem
    · exact line.newline_not_mem hmem
    · exact hending hmem

theorem newline_mem_chars_iff (line : Line) :
    '\n' ∈ line.chars ↔ line.terminator ≠ .endOfText := by
  have hending : '\n' ∈ line.terminator.chars ↔ line.terminator ≠ .endOfText := by
    cases line.terminator <;> decide
  rw [chars, List.mem_append, ← hending]
  exact or_iff_right line.newline_not_mem

/-- A line is known from its characters. -/
theorem eq_of_chars_eq (h : line.chars = line'.chars) : line = line' := by
  have hcontent : line.content = line'.content := by
    rw [← body_chars line, ← body_chars line', h]
  have hending : line.terminator.chars = line'.terminator.chars := by
    rw [chars, chars, hcontent] at h
    exact List.append_cancel_left h
  have hterminator : line.terminator = line'.terminator := by
    revert hending
    cases line.terminator <;> cases line'.terminator <;> simp [Terminator.chars]
  cases line
  cases line'
  cases hcontent
  cases hterminator
  rfl

end Line

/-- A piece of a text is a line. -/
theorem exists_line {piece : List Char} (hne : piece ≠ []) (h : '\n' ∉ piece.dropLast) :
    ∃ line : Line, line.chars = piece := by
  by_cases hmem : '\n' ∈ piece
  · obtain ⟨front, rfl⟩ : ∃ front, piece = front ++ ['\n'] := by
      rw [← List.dropLast_concat_getLast hne, List.mem_append, List.mem_singleton] at hmem
      refine ⟨piece.dropLast, ?_⟩
      rw [hmem.resolve_left h]
      exact (List.dropLast_concat_getLast hne).symm
    rw [List.dropLast_concat] at h
    by_cases hlast : front.getLast? = some '\r'
    · obtain ⟨content, rfl⟩ := List.getLast?_eq_some_iff.mp hlast
      have hcontent : '\n' ∉ content := fun hc => h (List.mem_append_left _ hc)
      refine ⟨⟨content, .returnAndFeed, hcontent, trivial⟩, ?_⟩
      exact (List.append_assoc content ['\r'] ['\n']).symm
    · exact ⟨⟨front, .lineFeed, h, hlast⟩, rfl⟩
  · exact ⟨⟨piece, .endOfText, hmem, hne⟩, List.append_nil piece⟩

/-! ### One way to cut a text -/

namespace CutInto

variable {text rest : List Char} {line : Line} {lines : List Line}

/-- A text that is cut into lines begins with the first of them. -/
theorem firstLine (h : CutInto text (line :: lines)) :
    FirstLine '\n' text line.chars (lines.flatMap Line.chars) where
  split := by rw [h.joined, List.flatMap_cons]
  inside := line.newline_not_mem_dropLast
  last hmem := by
    cases lines with
    | nil => rfl
    | cons next lines =>
        rw [line.newline_mem_chars_iff] at hmem
        exact absurd (h.terminated line List.mem_cons_self) hmem

theorem tail (h : CutInto text (line :: lines)) : CutInto (lines.flatMap Line.chars) lines where
  joined := rfl
  terminated next hnext := by
    cases lines with
    | nil => cases hnext
    | cons second lines => exact h.terminated next (List.mem_cons_of_mem _ hnext)

theorem cons (hfirst : FirstLine '\n' text line.chars rest) (h : CutInto rest lines) :
    CutInto text (line :: lines) where
  joined := by rw [List.flatMap_cons, ← h.joined, hfirst.split]
  terminated next hnext := by
    cases lines with
    | nil => cases hnext
    | cons second lines =>
        rw [List.dropLast_cons_cons, List.mem_cons] at hnext
        rcases hnext with rfl | hnext
        · rw [← Line.newline_mem_chars_iff]
          -- Without a mark nothing would follow, but there is a second line.
          refine Decidable.byContradiction fun hmem => second.chars_ne_nil ?_
          have hnil : second.chars ++ lines.flatMap Line.chars = [] := by
            rw [← List.flatMap_cons, ← h.joined, hfirst.last hmem]
          exact (List.append_eq_nil_iff.mp hnil).1
        · exact h.terminated next hnext

/-- The lines of a text are its pieces. -/
theorem pieces_eq (h : CutInto text lines) : pieces '\n' text = lines.map Line.chars := by
  induction lines generalizing text with
  | nil =>
      rw [h.joined]
      rfl
  | cons line lines ih =>
      rw [h.firstLine.pieces_eq line.chars_ne_nil, ih h.tail, List.map_cons]

/-- The rows that a text is read as are the contents of its lines. -/
theorem rows_eq (h : CutInto text lines) : rows text = lines.map Line.content := by
  rw [rows, h.pieces_eq, List.map_map]
  exact List.map_congr_left fun line _ => line.body_chars

theorem unique {lines' : List Line} (h : CutInto text lines) (h' : CutInto text lines') :
    lines = lines' :=
  (List.map_inj_right fun _ _ => Line.eq_of_chars_eq).mp (h.pieces_eq.symm.trans h'.pieces_eq)

end CutInto

theorem exists_cutInto (text : List Char) : ∃ lines, CutInto text lines := by
  induction hn : text.length using Nat.strongRecOn generalizing text with
  | ind n ih =>
      obtain ⟨piece, rest, hfirst⟩ := FirstLine.exists_firstLine '\n' text
      by_cases hne : piece = []
      · subst hne
        exact ⟨[], hfirst.text_eq_nil, nofun⟩
      · obtain ⟨line, rfl⟩ := exists_line hne hfirst.inside
        have hshorter : rest.length < n := by
          have hpos := List.length_pos_iff.mpr hne
          rw [← hn, hfirst.split, List.length_append]
          omega
        obtain ⟨lines, hrest⟩ := ih rest.length hshorter rest rfl
        exact ⟨line :: lines, .cons hfirst hrest⟩

/-- What stands on a line stands in the text, and is no line feed. -/
theorem mem_of_mem_rows {text row : List Char} {c : Char} (h : row ∈ rows text) (hc : c ∈ row) :
    c ∈ text ∧ c ≠ '\n' := by
  obtain ⟨lines, hcut⟩ := exists_cutInto text
  rw [hcut.rows_eq] at h
  obtain ⟨line, hline, rfl⟩ := List.mem_map.mp h
  refine ⟨?_, ?_⟩
  · rw [hcut.joined, List.mem_flatMap]
    exact ⟨line, hline, List.mem_append_left _ hc⟩
  · rintro rfl
    exact line.newline_not_mem hc

/-- Every text is a sequence of lines in exactly one way. -/
theorem existsUnique_cutInto (text : List Char) : ∃! lines, CutInto text lines := by
  obtain ⟨lines, h⟩ := exists_cutInto text
  exact ⟨lines, h, fun _ h' => h'.unique h⟩

end Lines

/-! ### The playfield of some lines -/

namespace Playfield

open Lines (CutInto)

/-- A playfield is a rectangle with some lines in it, one in each row. It is as wide as the longest
line, and blank behind every shorter one. -/
structure LaysOut (f : Playfield) (lines : List (List Char)) : Prop where
  height : f.height = lines.length
  fits : ∀ line ∈ lines, line.length ≤ f.width
  attained : ∃ line ∈ lines, line.length = f.width
  written : ∀ (r c : Nat) row char, lines[r]? = some row → row[c]? = some char →
    f.read ⟨r, c⟩ = .ok (.ofChar char)
  behind : ∀ (r c : Nat) row, lines[r]? = some row → row.length ≤ c → c < f.width →
    f.read ⟨r, c⟩ = .ok .blank

/-- Some lines with more spaces at their ends, but not longer than the longest of them was. -/
structure FilledUp (lines filled : List (List Char)) : Prop where
  length_eq : filled.length = lines.length
  spaces : ∀ (r : Nat) line line', lines[r]? = some line → filled[r]? = some line' →
    ∃ n, line' = line ++ List.replicate n ' '
  noLonger : ∀ line' ∈ filled, ∃ line ∈ lines, line'.length ≤ line.length

variable {f g : Playfield} {lines filled : List (List Char)}

namespace LaysOut

theorem width_le (hf : f.LaysOut lines) (hg : g.LaysOut lines) : f.width ≤ g.width := by
  obtain ⟨line, hline, hlength⟩ := hf.attained
  rw [← hlength]
  exact hg.fits line hline

theorem exists_line (hf : f.LaysOut lines) {r : Nat} (hr : r < f.height) :
    ∃ line, lines[r]? = some line := by
  rw [hf.height] at hr
  exact ⟨_, List.getElem?_eq_getElem hr⟩

/-- Every cell is a character of a line, or a blank. -/
theorem exists_char (hf : f.LaysOut lines) {p : Position} {cell : Cell}
    (hread : f.read p = .ok cell) :
    ∃ char, cell = .ofChar char ∧ (char = ' ' ∨ ∃ line ∈ lines, char ∈ line) := by
  obtain ⟨r, c, hr, hc, rfl⟩ := exists_natCast (contains_of_read hread)
  obtain ⟨line, hline⟩ := hf.exists_line hr
  by_cases hinside : c < line.length
  · have hchar := List.getElem?_eq_getElem hinside
    have hcell := hread.symm.trans (hf.written r c _ _ hline hchar)
    refine ⟨_, Except.ok.inj hcell, .inr ⟨line, List.mem_of_getElem? hline, ?_⟩⟩
    exact List.mem_of_getElem? hchar
  · have hcell := hread.symm.trans (hf.behind r c _ hline (Nat.le_of_not_lt hinside) hc)
    exact ⟨' ', Except.ok.inj hcell, .inl rfl⟩

/-- The lines leave nothing of the playfield open. -/
theorem unique (hf : f.LaysOut lines) (hg : g.LaysOut lines) : f = g := by
  have hwidth : f.width = g.width := Nat.le_antisymm (hf.width_le hg) (hg.width_le hf)
  refine eq_of_read (hf.height.trans hg.height.symm) hwidth fun p hp => ?_
  obtain ⟨r, c, hr, hc, rfl⟩ := exists_natCast hp
  obtain ⟨line, hline⟩ := hf.exists_line hr
  by_cases hinside : c < line.length
  · have hchar := List.getElem?_eq_getElem hinside
    exact (hf.written r c _ _ hline hchar).trans (hg.written r c _ _ hline hchar).symm
  · have hend := Nat.le_of_not_lt hinside
    exact (hf.behind r c _ hline hend hc).trans (hg.behind r c _ hline hend (hwidth ▸ hc)).symm

end LaysOut

/-- Lines make no playfield exactly when there is nothing on any of them. -/
theorem ofRows?_ofChar_eq_none_iff :
    ofRows? (lines.map (List.map Cell.ofChar)) = none ↔ ∀ line ∈ lines, line = [] := by
  rw [ofRows?_eq_none_iff]
  simp only [List.forall_mem_map, List.map_eq_nil_iff]

theorem laysOut_of_ofRows? (h : ofRows? (lines.map (List.map Cell.ofChar)) = some f) :
    f.LaysOut lines := by
  obtain ⟨hheight, hwidth, -⟩ := of_ofRows?_eq_some h
  rw [List.length_map] at hheight
  have hfits : ∀ line ∈ lines, line.length ≤ f.width := by
    intro line hline
    rw [hwidth, ← List.length_map Cell.ofChar]
    exact length_le_widest (List.mem_map_of_mem hline)
  have hinside : ∀ (r c : Nat) line, lines[r]? = some line → c < f.width →
      f.Contains ⟨r, c⟩ := by
    intro r c line hline hc
    obtain ⟨hr, -⟩ := List.getElem?_eq_some_iff.mp hline
    exact contains_natCast.mpr ⟨hheight ▸ hr, hc⟩
  refine ⟨hheight, hfits, ?_, ?_, ?_⟩
  · obtain ⟨row, hrow, hlength⟩ := exists_length_eq_widest (hwidth ▸ f.width_pos)
    obtain ⟨line, hline, rfl⟩ := List.mem_map.mp hrow
    rw [List.length_map] at hlength
    exact ⟨line, hline, hlength.trans hwidth.symm⟩
  · intro r c line char hline hchar
    obtain ⟨hc, -⟩ := List.getElem?_eq_some_iff.mp hchar
    have hwide := hfits line (List.mem_of_getElem? hline)
    rw [read_ofRows? h (hinside r c line hline (by omega)), Position.lookup?_map,
      Position.lookup?_natCast, hline, Option.bind_some, hchar]
    rfl
  · intro r c line hline hend hc
    rw [read_ofRows? h (hinside r c line hline hc), Position.lookup?_map,
      Position.lookup?_natCast, hline, Option.bind_some, List.getElem?_eq_none hend]
    rfl

/-- Lines make the playfield that lays them out. -/
theorem ofRows?_ofChar_eq_some_iff :
    ofRows? (lines.map (List.map Cell.ofChar)) = some f ↔ f.LaysOut lines := by
  refine ⟨laysOut_of_ofRows?, fun h => ?_⟩
  cases hload : ofRows? (lines.map (List.map Cell.ofChar)) with
  | none =>
      rw [ofRows?_ofChar_eq_none_iff] at hload
      obtain ⟨line, hline, hlength⟩ := h.attained
      rw [hload line hline] at hlength
      exact absurd hlength (Nat.ne_of_lt f.width_pos)
  | some g => rw [(laysOut_of_ofRows? hload).unique h]

/-! ### Spaces at the end of a line -/

namespace FilledUp

theorem exists_of_filled (h : FilledUp lines filled) {r : Nat} {line' : List Char}
    (hline' : filled[r]? = some line') :
    ∃ line n, lines[r]? = some line ∧ line' = line ++ List.replicate n ' ' := by
  obtain ⟨hr, -⟩ := List.getElem?_eq_some_iff.mp hline'
  rw [h.length_eq] at hr
  have hline := List.getElem?_eq_getElem hr
  obtain ⟨n, hn⟩ := h.spaces r _ line' hline hline'
  exact ⟨_, n, hline, hn⟩

theorem exists_filled (h : FilledUp lines filled) {line : List Char} (hline : line ∈ lines) :
    ∃ n, line ++ List.replicate n ' ' ∈ filled := by
  obtain ⟨r, hr⟩ := List.mem_iff_getElem?.mp hline
  obtain ⟨hlt, -⟩ := List.getElem?_eq_some_iff.mp hr
  rw [← h.length_eq] at hlt
  have hline' := List.getElem?_eq_getElem hlt
  obtain ⟨n, hn⟩ := h.spaces r line _ hr hline'
  exact ⟨n, hn ▸ List.mem_of_getElem? hline'⟩

theorem length_le_width (h : FilledUp lines filled) (hf : f.LaysOut lines) {line' : List Char}
    (hline' : line' ∈ filled) : line'.length ≤ f.width := by
  obtain ⟨line, hline, hle⟩ := h.noLonger line' hline'
  exact Nat.le_trans hle (hf.fits line hline)

/-- Spaces at the end of a line are the same cells as the blanks that the line is filled up with. -/
theorem laysOut (h : FilledUp lines filled) (hf : f.LaysOut lines) : f.LaysOut filled where
  height := hf.height.trans h.length_eq.symm
  fits line' hline' := h.length_le_width hf hline'
  attained := by
    obtain ⟨line, hline, hlength⟩ := hf.attained
    obtain ⟨n, hline'⟩ := h.exists_filled hline
    have hle := h.length_le_width hf hline'
    refine ⟨_, hline', Nat.le_antisymm hle ?_⟩
    rw [List.length_append, hlength]
    exact Nat.le_add_right _ _
  written r c line' char hline' hchar := by
    have hle := h.length_le_width hf (List.mem_of_getElem? hline')
    obtain ⟨hc', -⟩ := List.getElem?_eq_some_iff.mp hchar
    obtain ⟨line, n, hline, rfl⟩ := h.exists_of_filled hline'
    by_cases hc : c < line.length
    · rw [List.getElem?_append_left hc] at hchar
      exact hf.written r c line char hline hchar
    · have hend := Nat.le_of_not_lt hc
      rw [List.getElem?_append_right hend] at hchar
      obtain rfl : char = ' ' := (List.mem_replicate.mp (List.mem_of_getElem? hchar)).2
      exact hf.behind r c line hline hend (by omega)
  behind r c line' hline' hend hc := by
    obtain ⟨line, n, hline, rfl⟩ := h.exists_of_filled hline'
    rw [List.length_append] at hend
    exact hf.behind r c line hline (by omega) hc

theorem forall_eq_nil_iff (h : FilledUp lines filled) :
    (∀ line' ∈ filled, line' = []) ↔ ∀ line ∈ lines, line = [] := by
  constructor
  · intro hnil line hline
    obtain ⟨n, hline'⟩ := h.exists_filled hline
    exact (List.append_eq_nil_iff.mp (hnil _ hline')).1
  · intro hnil line' hline'
    obtain ⟨line, hline, hle⟩ := h.noLonger line' hline'
    rw [hnil line hline] at hle
    exact List.length_eq_zero_iff.mp (Nat.le_zero.mp hle)

theorem ofRows?_eq (h : FilledUp lines filled) :
    ofRows? (filled.map (List.map Cell.ofChar)) = ofRows? (lines.map (List.map Cell.ofChar)) := by
  cases hload : ofRows? (lines.map (List.map Cell.ofChar)) with
  | none =>
      rw [ofRows?_ofChar_eq_none_iff] at hload
      rw [ofRows?_ofChar_eq_none_iff, h.forall_eq_nil_iff]
      exact hload
  | some f =>
      rw [ofRows?_ofChar_eq_some_iff] at hload
      rw [ofRows?_ofChar_eq_some_iff]
      exact h.laysOut hload

end FilledUp

/-! ### Loading -/

theorem ofSource?_of_cutInto {source : String} {cut : List Lines.Line}
    (h : CutInto source.toList cut) :
    ofSource? source = ofRows? ((cut.map Lines.Line.content).map (List.map Cell.ofChar)) := by
  rw [← h.rows_eq]
  rfl

/-- A program is loaded line by line and character by character. Every text is a sequence of lines in
exactly one way. It loads unless there is nothing on any of its lines, and then as the playfield that
lays out what is on them, each character as a cell with its code point as the value. So neither the
ends of the lines nor spaces behind them change what is loaded, as long as the longest line stays as
long as it was. -/
theorem ofSource?_line_by_line :
    (∀ text, ∃! cut, CutInto text cut) ∧
    (∀ (source : String) cut, CutInto source.toList cut →
      (ofSource? source = none ↔ ∀ line ∈ cut, line.content = []) ∧
      ∀ f, ofSource? source = some f ↔ f.LaysOut (cut.map Lines.Line.content)) ∧
    (∀ char, (Cell.ofChar char).value.toInt = char.toNat) ∧
    ∀ (lines : List (List Char)) (source source' : String) cut cut',
      CutInto source.toList cut → FilledUp lines (cut.map Lines.Line.content) →
      CutInto source'.toList cut' → FilledUp lines (cut'.map Lines.Line.content) →
      ofSource? source = ofSource? source' := by
  refine ⟨Lines.existsUnique_cutInto, ?_, ?_, ?_⟩
  · intro source cut hcut
    rw [ofSource?_of_cutInto hcut]
    refine ⟨?_, fun f => ofRows?_ofChar_eq_some_iff⟩
    rw [ofRows?_ofChar_eq_none_iff, List.forall_mem_map]
  · intro char
    rw [Cell.value_ofChar, CodePoint.toInt_value]
  · intro lines source source' cut cut' hcut hfilled hcut' hfilled'
    rw [ofSource?_of_cutInto hcut, ofSource?_of_cutInto hcut', hfilled.ofRows?_eq,
      hfilled'.ofRows?_eq]

example : ofSource? "12\r\n3" = ofSource? "12\n3 \n" := by decide

end Playfield

end Funge
