import Mathlib.Order.Monotone.Basic
import Funge.Diagnostic
import Funge.Proofs.SourceLines

/-!
# The character that a diagnostic marks

The lines of a program are cut apart twice: by the playfield, which takes one terminator off each
line, and by the diagnostic, which takes off every line feed and carriage return there is at the end
and counts the characters of the lines before. `offset?_eq_some_iff` brings both back to the same
lines. The diagnostic never takes off less than the playfield (`cellCount_chars_le`), so every
character it marks is a cell, and the count leads to where the line begins in the text
(`Lines.getElem?_flatten_offset`).
-/

namespace Funge

/-! ### Where lines begin -/

namespace Lines

variable {α : Type} {ps : List (List α)} {piece : List α} {r c : Nat}

/-- The offset of the first character of a piece in the text that the pieces make up. -/
def offset (ps : List (List α)) (r : Nat) : Nat := (ps.take r).flatten.length

@[simp] theorem offset_zero (ps : List (List α)) : offset ps 0 = 0 := rfl

theorem offset_cons_succ (piece : List α) (ps : List (List α)) (r : Nat) :
    offset (piece :: ps) (r + 1) = piece.length + offset ps r := by
  rw [offset, List.take_succ_cons, List.flatten_cons, List.length_append]
  rfl

/-- A piece begins where the one before it ends. -/
theorem offset_succ (h : ps[r]? = some piece) : offset ps (r + 1) = offset ps r + piece.length := by
  rw [offset, offset, List.take_add_one, h, List.flatten_append, List.length_append,
    Option.toList_some, List.flatten_singleton]

theorem offset_mono (ps : List (List α)) : Monotone (offset ps) := by
  refine monotone_nat_of_le_succ fun r => ?_
  cases h : ps[r]? with
  | none =>
      have hlength := List.getElem?_eq_none_iff.mp h
      rw [offset, offset, List.take_of_length_le hlength, List.take_of_length_le (by omega)]
  | some piece =>
      rw [offset_succ h]
      exact Nat.le_add_right _ _

/-- What stands in a column of a piece stands in the text that many places behind the beginning of
the piece. -/
theorem getElem?_flatten_offset (h : ps[r]? = some piece) (hc : c < piece.length) :
    ps.flatten[offset ps r + c]? = piece[c]? := by
  induction ps generalizing r with
  | nil => cases h
  | cons first more ih =>
      cases r with
      | zero =>
          obtain rfl := Option.some.inj h
          rw [offset_zero, Nat.zero_add, List.flatten_cons, List.getElem?_append_left hc]
      | succ r =>
          rw [offset_cons_succ, Nat.add_assoc, List.flatten_cons,
            List.getElem?_append_right (Nat.le_add_right _ _), Nat.add_sub_cancel_left]
          exact ih h

/-- What comes first by rows and columns comes first in the text. -/
theorem offset_add_lt {r' c' : Nat} (h : ps[r]? = some piece) (hc : c < piece.length)
    (hbefore : r < r' ∨ r = r' ∧ c < c') : offset ps r + c < offset ps r' + c' := by
  obtain hrow | ⟨rfl, hcol⟩ := hbefore
  · have hnext := offset_succ h
    have hle : offset ps (r + 1) ≤ offset ps r' := offset_mono ps hrow
    omega
  · exact Nat.add_lt_add_left hcol _

end Lines

/-! ### Finding the cell in the text -/

namespace Diagnostic

open Lines (CutInto Line)

variable {text : List Char} {cut : List Line} {p q : Position} {a : Nat}

theorem offsetIn_eq_some_iff {ps : List (List Char)} {r c : Nat} :
    offsetIn ps r c = some a ↔
      ∃ piece, ps[r]? = some piece ∧ c < cellCount piece ∧ a = Lines.offset ps r + c := by
  induction ps generalizing r a with
  | nil => simp [offsetIn]
  | cons first more ih =>
      cases r with
      | zero =>
          rw [offsetIn, Lines.offset_zero, Nat.zero_add]
          split
          · next hc => simp [hc, eq_comm]
          · next hc => simp [hc]
      | succ r =>
          rw [offsetIn, Lines.offset_cons_succ, Option.map_eq_some_iff]
          constructor
          · rintro ⟨b, hb, rfl⟩
            obtain ⟨piece, hpiece, hc, rfl⟩ := ih.mp hb
            exact ⟨piece, hpiece, hc, (Nat.add_assoc _ _ _).symm⟩
          · rintro ⟨piece, hpiece, hc, rfl⟩
            exact ⟨_, ih.mpr ⟨piece, hpiece, hc, rfl⟩, (Nat.add_assoc _ _ _).symm⟩

/-- What a diagnostic takes off a line is the terminator, and what there is before it of the same
characters. -/
theorem cellCount_chars (line : Line) :
    cellCount line.chars =
      (line.content.reverse.dropWhile fun c => c = '\n' || c = '\r').length := by
  have hending : ∀ c ∈ line.terminator.chars.reverse, (c = '\n' || c = '\r') = true := by
    cases line.terminator <;> simp [Lines.Terminator.chars]
  rw [cellCount, Line.chars, List.reverse_append, List.dropWhile_append_of_pos hending]

/-- A terminator has no cell in it. -/
theorem cellCount_chars_le (line : Line) : cellCount line.chars ≤ line.content.length := by
  calc cellCount line.chars
      = (line.content.reverse.dropWhile fun c => c = '\n' || c = '\r').length := cellCount_chars line
    _ ≤ line.content.reverse.length := (List.dropWhile_sublist _).length_le
    _ = line.content.length := List.length_reverse

theorem lt_length_chars {line : Line} {c : Nat} (h : c < cellCount line.chars) :
    c < line.chars.length :=
  calc c < cellCount line.chars := h
    _ ≤ line.content.length := cellCount_chars_le line
    _ ≤ line.content.length + line.terminator.chars.length := Nat.le_add_right _ _
    _ = line.chars.length := List.length_append.symm

theorem getElem?_pieces (hcut : CutInto text cut) (r : Nat) :
    (Lines.pieces '\n' text)[r]? = cut[r]?.map Line.chars := by
  rw [hcut.pieces_eq, List.getElem?_map]

/-- A position is found in a text where there is a line in its row that has a cell in its column. -/
theorem offset?_eq_some_iff (hcut : CutInto text cut) :
    offset? text p = some a ↔
      ∃ (r c : Nat) (line : Line), p = ⟨r, c⟩ ∧ cut[r]? = some line ∧ c < cellCount line.chars ∧
        a = Lines.offset (Lines.pieces '\n' text) r + c := by
  rw [offset?]
  constructor
  · intro h
    split at h
    · next hp =>
      obtain ⟨piece, hpiece, hc, ha⟩ := offsetIn_eq_some_iff.mp h
      rw [getElem?_pieces hcut, Option.map_eq_some_iff] at hpiece
      obtain ⟨line, hline, rfl⟩ := hpiece
      refine ⟨p.row.toNat, p.col.toNat, line, ?_, hline, hc, ha⟩
      exact Position.ext (Int.toNat_of_nonneg hp.1).symm (Int.toNat_of_nonneg hp.2).symm
    · cases h
  · rintro ⟨r, c, line, rfl, hline, hc, rfl⟩
    rw [if_pos ⟨Int.natCast_nonneg r, Int.natCast_nonneg c⟩, offsetIn_eq_some_iff]
    refine ⟨line.chars, ?_, hc, rfl⟩
    rw [Int.toNat_natCast, getElem?_pieces hcut, hline, Option.map_some]

theorem range?_eq_some_iff {b : Nat} :
    range? text p = some (a, b) ↔ offset? text p = some a ∧ b = a + 1 := by
  rw [range?, Option.map_eq_some_iff]
  constructor
  · rintro ⟨start, hstart, ⟨⟩⟩
    exact ⟨hstart, rfl⟩
  · rintro ⟨hstart, rfl⟩
    exact ⟨a, hstart, rfl⟩

/-- What is found in a text is the character of the line in that row and column. -/
theorem exists_char_of_offset? (hcut : CutInto text cut) (h : offset? text p = some a) :
    ∃ (r c : Nat) (line : Line) (char : Char), p = ⟨r, c⟩ ∧ cut[r]? = some line ∧
      line.content[c]? = some char ∧ text[a]? = some char := by
  obtain ⟨r, c, line, hp, hline, hcell, rfl⟩ := (offset?_eq_some_iff hcut).mp h
  have hc : c < line.content.length := Nat.lt_of_lt_of_le hcell (cellCount_chars_le line)
  have hpiece : (Lines.pieces '\n' text)[r]? = some line.chars := by
    rw [getElem?_pieces hcut, hline, Option.map_some]
  have hchar := List.getElem?_eq_getElem hc
  refine ⟨r, c, line, _, hp, hline, hchar, ?_⟩
  have htext := Lines.getElem?_flatten_offset hpiece (lt_length_chars hcell)
  rw [Lines.flatten_pieces] at htext
  rw [htext, Line.chars, List.getElem?_append_left hc, hchar]

/-- Of two positions that are found, the one that is earlier in row-major order has the smaller
offset. -/
theorem offset?_lt_offset? {b : Nat} (hp : offset? text p = some a) (hq : offset? text q = some b)
    (hbefore : p.row < q.row ∨ p.row = q.row ∧ p.col < q.col) : a < b := by
  obtain ⟨cut, hcut⟩ := Lines.exists_cutInto text
  obtain ⟨r, c, line, rfl, hline, hcell, rfl⟩ := (offset?_eq_some_iff hcut).mp hp
  obtain ⟨r', c', -, rfl, -, -, rfl⟩ := (offset?_eq_some_iff hcut).mp hq
  have hpiece : (Lines.pieces '\n' text)[r]? = some line.chars := by
    rw [getElem?_pieces hcut, hline, Option.map_some]
  refine Lines.offset_add_lt hpiece (lt_length_chars hcell) ?_
  change (r : Int) < r' ∨ (r : Int) = r' ∧ (c : Int) < c' at hbefore
  omega

/-- A text in which a position is found is a program with that position inside, and its cell is the
character that was found. -/
theorem exists_read_of_offset? {source : String} (h : offset? source.toList p = some a) :
    ∃ char f, source.toList[a]? = some char ∧ p.lookup? (Lines.rows source.toList) = some char ∧
      Playfield.ofSource? source = some f ∧ f.read p = .ok (.ofChar char) := by
  obtain ⟨cut, hcut⟩ := Lines.exists_cutInto source.toList
  obtain ⟨r, c, line, char, rfl, hline, hchar, htext⟩ := exists_char_of_offset? hcut h
  have hcontent : (cut.map Line.content)[r]? = some line.content := by
    rw [List.getElem?_map, hline, Option.map_some]
  have hlookup : Position.lookup? ⟨r, c⟩ (Lines.rows source.toList) = some char := by
    rw [hcut.rows_eq, Position.lookup?_natCast, hcontent, Option.bind_some, hchar]
  cases hload : Playfield.ofSource? source with
  | none =>
      rw [Playfield.ofSource?_of_cutInto hcut, Playfield.ofRows?_ofChar_eq_none_iff] at hload
      rw [hload _ (List.mem_of_getElem? hcontent)] at hchar
      cases hchar
  | some f =>
      rw [Playfield.ofSource?_of_cutInto hcut] at hload
      have hread := (Playfield.laysOut_of_ofRows? hload).written r c _ _ hcontent hchar
      exact ⟨char, f, htext, hlookup, rfl, hread⟩

/-- A diagnostic never marks the wrong character. What it marks for a position is one character of
the program text. The text is a program, the position is inside its playfield, and the cell that was
loaded there is that character, which is the one in this row and column of the lines of the text. And
what is marked comes in the text in the order of rows and columns. -/
theorem range?_marks_cell {source : String} {b : Nat} (h : range? source.toList p = some (a, b)) :
    (b = a + 1 ∧ a < source.length) ∧
    (∃ char f, source.toList[a]? = some char ∧
      p.lookup? (Lines.rows source.toList) = some char ∧
      Playfield.ofSource? source = some f ∧ f.Contains p ∧ f.read p = .ok (.ofChar char)) ∧
    ∀ q a' b', range? source.toList q = some (a', b') →
      p.row < q.row ∨ p.row = q.row ∧ p.col < q.col → a < a' := by
  obtain ⟨hoffset, hstop⟩ := range?_eq_some_iff.mp h
  obtain ⟨char, f, htext, hlookup, hload, hread⟩ := exists_read_of_offset? hoffset
  refine ⟨⟨hstop, ?_⟩, ?_, ?_⟩
  · rw [← String.length_toList]
    exact (List.getElem?_eq_some_iff.mp htext).1
  · exact ⟨char, f, htext, hlookup, hload, Playfield.contains_of_read hread, hread⟩
  · intro q a' b' hq hbefore
    exact offset?_lt_offset? hoffset (range?_eq_some_iff.mp hq).1 hbefore

/-- Behind a line with a carriage return of its own, a blank line and a character of two bytes, the
character that is marked is still the one of the cell. -/
theorem range?_marks_cell_of_mixed :
    let source := "a\rb\r\r\n\n\u00e9\r\n@x"
    range? source.toList ⟨3, 1⟩ = some (11, 12) ∧ range? source.toList ⟨2, 0⟩ = some (7, 8) ∧
      11 < source.length ∧
      ∃ char f, source.toList[11]? = some char ∧ Playfield.ofSource? source = some f ∧
        f.read ⟨3, 1⟩ = .ok (.ofChar char) := by
  intro source
  have hrange : range? source.toList ⟨3, 1⟩ = some (11, 12) := by decide
  have hearlier : range? source.toList ⟨2, 0⟩ = some (7, 8) := by decide
  obtain ⟨⟨-, hinside⟩, ⟨char, f, htext, -, hload, -, hread⟩, -⟩ := range?_marks_cell hrange
  exact ⟨hrange, hearlier, hinside, char, f, htext, hload, hread⟩

end Diagnostic

end Funge
