import Mathlib.Data.Nat.Count
import Funge.Proofs.Labelling

/-!
# The line and the column in the header of a diagnostic

The header of a diagnostic names a line of the page and a column of it. A row of a program ends with
a line feed, and so does the line of the page, but the page has more ends of lines: carriage returns
that no line feed follows, and five other characters. Each of these before the cell puts the header
one line further (`Breaks.ended_eq`). Without any of them the line of the page begins where the row
does, and so the column is the same, too.
-/

namespace Funge

/-! ### Ends of lines on a page -/

namespace Breaks

/-- The character at an index of a text ends a line of the page. Of a carriage return and a line
feed after it only the line feed does. -/
def endsLine (text : List Char) (i : Nat) : Bool :=
  text[i]?.any fun c => isBreak c && !(c = '\r' && text[i + 1]? = some '\n')

/-- The character at an index of a text ends a line of the page and is no line feed. -/
def isStray (text : List Char) (i : Nat) : Bool :=
  text[i]?.any fun c => ['\x0b', '\x0c', '\u0085', '\u2028', '\u2029'].contains c ||
    (c = '\r' && text[i + 1]? ≠ some '\n')

/-- How many lines of the page have ended before an offset. -/
def ended (text : List Char) (offset : Nat) : Nat := Nat.count (endsLine text ·) offset

/-- How many characters before an offset end a line of the page and are no line feeds. -/
def strays (text : List Char) (offset : Nat) : Nat := Nat.count (isStray text ·) offset

variable {text : List Char} {start col offset i : Nat} {c : Char}

/-- What ends a line of the page is a line feed, or it is a stray. -/
theorem endsLine_iff : endsLine text i = true ↔ text[i]? = some '\n' ∨ isStray text i = true := by
  cases htext : text[i]? with
  | none => simp [endsLine, isStray, htext]
  | some c =>
      by_cases hfeed : c = '\n'
      · subst hfeed
        simp [endsLine, htext, isBreak]
      · by_cases hreturn : c = '\r'
        · subst hreturn
          simp [endsLine, isStray, htext, isBreak]
        · simp [endsLine, isStray, htext, isBreak, hfeed, hreturn, or_assoc]

theorem isStray_newline (h : text[i]? = some '\n') : isStray text i = false := by
  simp [isStray, h]

/-- The first character of a text is a line of its own if it ends one, and else it belongs to the
first line of what follows. -/
theorem lines_cons_of_endsLine {rest : List Char} (h : endsLine (c :: rest) 0 = true) :
    lines (c :: rest) = [c] :: lines rest := by
  simp only [endsLine, List.getElem?_cons_zero, Option.any_some, Bool.and_eq_true,
    Bool.not_eq_true'] at h
  rw [lines, if_pos h.1]
  rintro rest' rfl rfl
  simp at h

theorem lines_cons_of_not_endsLine {rest first : List Char} {more : List (List Char)}
    (h : endsLine (c :: rest) 0 = false) (hlines : lines rest = first :: more) :
    lines (c :: rest) = (c :: first) :: more := by
  by_cases hbreak : isBreak c = true
  · obtain ⟨rfl, hfeed⟩ : c = '\r' ∧ rest[0]? = some '\n' := by
      simpa [endsLine, hbreak] using h
    obtain ⟨rest, rfl⟩ : ∃ more, rest = '\n' :: more := by
      cases rest with
      | nil => cases hfeed
      | cons d rest => exact ⟨rest, congrArg (· :: rest) (Option.some.inj hfeed)⟩
    rw [lines_cons_of_endsLine (by simp [endsLine, isBreak])] at hlines
    obtain ⟨rfl, rfl⟩ := List.cons.inj hlines
    rfl
  · rw [lines, if_neg hbreak, hlines]
    rintro - rfl -
    exact hbreak rfl

theorem exists_lines_cons (c : Char) (rest : List Char) :
    ∃ first more, lines (c :: rest) = (c :: first) :: more := by
  cases hend : endsLine (c :: rest) 0 with
  | true => exact ⟨[], lines rest, lines_cons_of_endsLine hend⟩
  | false =>
      cases rest with
      | nil => exact ⟨[], [], by simp [lines]⟩
      | cons d rest =>
          obtain ⟨first, more, hlines⟩ := exists_lines_cons d rest
          exact ⟨d :: first, more, lines_cons_of_not_endsLine hend hlines⟩

theorem locate_cons_of_endsLine {rest : List Char} (h : endsLine (c :: rest) 0 = true)
    (offset : Nat) :
    locate (lines (c :: rest)) (offset + 1) =
      (locate (lines rest) offset).map fun place => (place.1 + 1, place.2) := by
  rw [lines_cons_of_endsLine h, locate, if_neg (by simp)]
  rfl

/-- A character that ends no line is on the first line, and moves what else is on it. -/
theorem locate_cons_of_not_endsLine {rest whole : List Char} {index : Nat}
    (h : endsLine (c :: rest) 0 = false)
    (hplace : locate (lines rest) offset = some (index, col, whole)) :
    locate (lines (c :: rest)) (offset + 1) =
      some (if index = 0 then (0, col + 1, c :: whole) else (index, col, whole)) := by
  cases hlines : lines rest with
  | nil =>
      rw [hlines] at hplace
      cases hplace
  | cons first more =>
      rw [hlines, locate] at hplace
      rw [lines_cons_of_not_endsLine h hlines, locate, List.length_cons]
      by_cases hfirst : offset < first.length
      · rw [if_pos hfirst] at hplace
        obtain ⟨rfl, rfl, rfl⟩ := Option.some.inj hplace
        exact if_pos (Nat.succ_lt_succ hfirst)
      · rw [if_neg hfirst] at hplace
        obtain ⟨⟨later, place⟩, hlater, heq⟩ := Option.map_eq_some_iff.mp hplace
        obtain ⟨rfl, rfl⟩ := Prod.mk.inj heq
        rw [if_neg (mt Nat.lt_of_succ_lt_succ hfirst), Nat.add_sub_add_right, hlater]
        rfl

/-- One line more has ended where the text has one character more before it that ends a line. -/
theorem ended_cons (c : Char) (rest : List Char) (offset : Nat) :
    ended (c :: rest) (offset + 1) =
      ended rest offset + if endsLine (c :: rest) 0 = true then 1 else 0 :=
  Nat.count_succ' _ _

theorem ended_succ (text : List Char) (offset : Nat) :
    ended text (offset + 1) = ended text offset + if endsLine text offset = true then 1 else 0 :=
  Nat.count_succ _ _

/-- A place on the page, from where its line begins and how far it is from there: the number of the
line is that of the lines that have ended before. -/
theorem locate_lines (hinside : start + col < text.length)
    (hbegins : ∀ k, start = k + 1 → endsLine text k = true)
    (hon : ∀ i, start ≤ i → i < start + col → endsLine text i = false) :
    ∃ whole, locate (lines text) (start + col) =
      some (ended text start, col, whole) := by
  induction text generalizing start col with
  | nil => exact absurd hinside (Nat.not_lt_zero _)
  | cons c rest ih =>
      cases start with
      | zero =>
          cases col with
          | zero =>
              obtain ⟨first, more, hlines⟩ := exists_lines_cons c rest
              rw [hlines]
              exact ⟨c :: first, rfl⟩
          | succ col =>
              rw [Nat.zero_add] at hinside hon ⊢
              have hinside' : 0 + col < rest.length := by
                rw [Nat.zero_add]
                exact Nat.lt_of_succ_lt_succ hinside
              obtain ⟨whole, hplace⟩ := ih hinside' nofun fun i hi hlt =>
                hon (i + 1) (Nat.zero_le _) (by omega)
              rw [Nat.zero_add] at hplace
              have hfirst := hon 0 (Nat.le_refl 0) (Nat.succ_pos col)
              exact ⟨c :: whole, locate_cons_of_not_endsLine hfirst hplace⟩
      | succ start =>
          rw [Nat.add_right_comm] at hinside hon ⊢
          obtain ⟨whole, hplace⟩ := ih (Nat.lt_of_succ_lt_succ hinside)
            (fun k hk => hbegins (k + 1) (congrArg (· + 1) hk))
            fun i hi hlt => hon (i + 1) (by omega) (by omega)
          refine ⟨whole, ?_⟩
          cases hend : endsLine (c :: rest) 0 with
          | true =>
              rw [locate_cons_of_endsLine hend, hplace, ended_cons, hend, if_pos rfl]
              rfl
          | false =>
              -- A line begins there, so the character that ends none is not right before it.
              cases start with
              | zero => exact absurd ((hbegins 0 rfl).symm.trans hend) nofun
              | succ start =>
                  have hbefore : endsLine rest start = true := hbegins (start + 1) rfl
                  have hpos : ended rest (start + 1) ≠ 0 := by
                    rw [ended_succ, if_pos hbefore]
                    exact Nat.succ_ne_zero _
                  rw [locate_cons_of_not_endsLine hend hplace, ended_cons, hend, if_neg hpos]
                  rfl

theorem ended_add (hon : ∀ i, start ≤ i → i < start + col → endsLine text i = false) :
    ended text (start + col) = ended text start := by
  induction col with
  | zero => rfl
  | succ col ih =>
      have hlast : endsLine text (start + col) = false := hon _ (Nat.le_add_right _ _) (by omega)
      rw [← Nat.add_assoc, ended_succ, hlast, ih fun i hi hlt => hon i hi (by omega)]
      rfl

/-- Every offset is on a line that begins at or before it. -/
theorem exists_start (text : List Char) (offset : Nat) :
    ∃ start col, offset = start + col ∧ (∀ k, start = k + 1 → endsLine text k = true) ∧
      ∀ i, start ≤ i → i < start + col → endsLine text i = false := by
  induction offset with
  | zero => exact ⟨0, 0, rfl, nofun, fun i _ hlt => absurd hlt (Nat.not_lt_zero i)⟩
  | succ offset ih =>
      cases hend : endsLine text offset with
      | true =>
          refine ⟨offset + 1, 0, rfl, fun k hk => ?_, by omega⟩
          rwa [← Nat.succ.inj hk]
      | false =>
          obtain ⟨start, col, rfl, hbegins, hon⟩ := ih
          refine ⟨start, col + 1, rfl, hbegins, fun i hi hlt => ?_⟩
          obtain hlt | rfl := Nat.lt_or_eq_of_le (Nat.le_of_lt_succ hlt)
          · exact hon i hi hlt
          · exact hend

/-- The number of the line that a character of a page is on. -/
theorem exists_locate_lines (hinside : offset < text.length) :
    ∃ col whole, locate (lines text) offset = some (ended text offset, col, whole) := by
  obtain ⟨start, col, rfl, hbegins, hon⟩ := exists_start text offset
  obtain ⟨whole, hplace⟩ := locate_lines hinside hbegins hon
  exact ⟨col, whole, hplace.trans (by rw [ended_add hon])⟩

/-- Lines of a page end at the line feeds and at the strays. -/
theorem ended_eq (text : List Char) (offset : Nat) :
    ended text offset = (text.take offset).count '\n' + strays text offset := by
  induction offset with
  | zero => rfl
  | succ offset ih =>
      have hstrays : strays text (offset + 1) =
          strays text offset + if isStray text offset = true then 1 else 0 := Nat.count_succ _ _
      have hfeeds : (text.take (offset + 1)).count '\n' =
          (text.take offset).count '\n' + if text[offset]? = some '\n' then 1 else 0 := by
        rw [List.take_add_one, List.count_append]
        cases text[offset]? with
        | none => simp
        | some c => simp [List.count_singleton]
      rw [ended_succ, ih, hstrays, hfeeds]
      by_cases hfeed : text[offset]? = some '\n'
      · simp only [endsLine_iff, hfeed, isStray_newline hfeed, true_or, if_true, Bool.false_eq_true,
          if_false]
        omega
      · simp only [endsLine_iff, hfeed, false_or, if_false]
        omega

theorem isStray_of_strays_eq_zero (h : strays text offset = 0) (hi : i < offset) :
    isStray text i = false :=
  Bool.eq_false_of_not_eq_true (Nat.count_iff_forall_not.mp h i hi)

end Breaks

/-! ### Line feeds before a row -/

namespace Lines

variable {text : List Char} {cut : List Line} {line : Line} {r c : Nat}

/-- A line that does not end with the text has one line feed, as its last character. -/
theorem Line.exists_chars_eq_concat (h : line.terminator ≠ .endOfText) :
    ∃ body, line.chars = body ++ ['\n'] ∧ '\n' ∉ body := by
  cases hterminator : line.terminator with
  | lineFeed => exact ⟨line.content, by rw [chars, hterminator]; rfl, line.newline_not_mem⟩
  | returnAndFeed =>
      refine ⟨line.content ++ ['\r'], ?_, ?_⟩
      · rw [chars, hterminator, List.append_assoc]
        rfl
      · simp [line.newline_not_mem]
  | endOfText => exact absurd hterminator h

/-- A line of a text that is not the last ends with a line feed. -/
theorem CutInto.terminator_ne (hcut : CutInto text cut) (hline : cut[r]? = some line)
    (hr : r + 1 < cut.length) : line.terminator ≠ .endOfText := by
  have hdropLast : cut.dropLast[r]? = some line := by
    rw [List.getElem?_dropLast, if_pos (by omega), hline]
  exact hcut.terminated line (List.mem_of_getElem? hdropLast)

/-- Above a row there are as many line feeds as rows. -/
theorem CutInto.count_newline (hcut : CutInto text cut) (hr : r < cut.length) :
    ((cut.take r).flatMap Line.chars).count '\n' = r := by
  induction r with
  | zero => rfl
  | succ r ih =>
      have hline : cut[r]? = some cut[r] := List.getElem?_eq_getElem _
      obtain ⟨body, hchars, hbody⟩ := Line.exists_chars_eq_concat (hcut.terminator_ne hline hr)
      have hlast : cut[r].chars.count '\n' = 1 := by
        rw [hchars, List.count_append, List.count_eq_zero.mpr hbody, List.count_singleton_self]
      rw [List.take_add_one, hline, List.flatMap_append, List.count_append,
        ih (Nat.lt_of_succ_lt hr), Option.toList_some, List.flatMap_singleton, hlast]

theorem CutInto.getElem?_pieces (hcut : CutInto text cut) (hline : cut[r]? = some line) :
    (pieces '\n' text)[r]? = some line.chars := by
  rw [Diagnostic.getElem?_pieces hcut, hline, Option.map_some]

theorem getElem?_offset (hcut : CutInto text cut) (hline : cut[r]? = some line)
    (hc : c < line.chars.length) :
    text[offset (pieces '\n' text) r + c]? = line.chars[c]? := by
  simpa only [flatten_pieces] using getElem?_flatten_offset (hcut.getElem?_pieces hline) hc

/-- Before a cell of a row there are as many line feeds as there are rows above it. -/
theorem count_newline_take_offset (hcut : CutInto text cut) (hline : cut[r]? = some line)
    (hc : c ≤ line.content.length) :
    (text.take (offset (pieces '\n' text) r + c)).count '\n' = r := by
  obtain ⟨hr, rfl⟩ := List.getElem?_eq_some_iff.mp hline
  have hsplit : text = (cut.take r).flatMap Line.chars ++
      (cut[r].content ++ (cut[r].terminator.chars ++ (cut.drop (r + 1)).flatMap Line.chars)) :=
    calc text
        = (cut.take r ++ cut[r] :: cut.drop (r + 1)).flatMap Line.chars := by
          rw [← List.drop_eq_getElem_cons hr, List.take_append_drop, hcut.joined]
      _ = _ := by rw [List.flatMap_append, List.flatMap_cons, Line.chars, List.append_assoc]
  have hoffset : offset (pieces '\n' text) r = ((cut.take r).flatMap Line.chars).length := by
    rw [offset, hcut.pieces_eq, ← List.map_take, List.flatMap_def]
  have hrow : (cut[r].content.take c).count '\n' = 0 :=
    List.count_eq_zero.mpr (mt (List.take_subset _ _ ·) cut[r].newline_not_mem)
  rw [hoffset, hsplit, List.take_length_add_append, List.take_append_of_le_length hc,
    List.count_append, hcut.count_newline hr, hrow, Nat.add_zero]

/-- Where a row begins, a line of the page does, too. -/
theorem endsLine_before_row (hcut : CutInto text cut) (hr : r < cut.length) :
    ∀ k, offset (pieces '\n' text) r = k + 1 → Breaks.endsLine text k = true := by
  intro k hk
  cases r with
  | zero => cases hk
  | succ r =>
      have hline : cut[r]? = some cut[r] := List.getElem?_eq_getElem _
      obtain ⟨body, hchars, -⟩ := Line.exists_chars_eq_concat (hcut.terminator_ne hline hr)
      have hlength : cut[r].chars.length = body.length + 1 := by
        rw [hchars, List.length_append, List.length_singleton]
      rw [offset_succ (hcut.getElem?_pieces hline), hlength] at hk
      obtain rfl : offset (pieces '\n' text) r + body.length = k := Nat.succ.inj hk
      refine Breaks.endsLine_iff.mpr (.inl ?_)
      rw [getElem?_offset hcut hline (by omega), hchars, List.getElem?_concat_length]

/-- Where no stray comes before a cell, no line of the page ends between the beginning of its row
and the cell. -/
theorem endsLine_in_row (hcut : CutInto text cut) (hline : cut[r]? = some line)
    (hc : c ≤ line.content.length)
    (hstrays : Breaks.strays text (offset (pieces '\n' text) r + c) = 0) :
    ∀ i, offset (pieces '\n' text) r ≤ i → i < offset (pieces '\n' text) r + c →
      Breaks.endsLine text i = false := by
  intro i hi hlt
  obtain ⟨k, rfl⟩ := Nat.exists_eq_add_of_le hi
  have hk : k < line.content.length := by omega
  have hchars : k < line.chars.length := by
    rw [Line.chars, List.length_append]
    omega
  have hfeed : text[offset (pieces '\n' text) r + k]? ≠ some '\n' := by
    rw [getElem?_offset hcut hline hchars, Line.chars, List.getElem?_append_left hk]
    exact fun h => line.newline_not_mem (List.mem_of_getElem? h)
  refine Bool.eq_false_of_not_eq_true fun hend => ?_
  rcases Breaks.endsLine_iff.mp hend with h | h
  · exact hfeed h
  · rw [Breaks.isStray_of_strays_eq_zero hstrays hlt] at h
    cases h

end Lines

/-! ### The header -/

namespace Diagnostic

variable {source : String} {p : Position} {a b : Nat}

/-- The row of a diagnostic that names a file, a line of it and a column. -/
def headerRow (file : String) (line col : Nat) : String :=
  times ((toString line).length + 2) " " ++ (grey 246 "╭" ++ grey 246 "─" ++ grey 246 "[") ++
    (" " ++ file ++ ":" ++ toString line ++ ":" ++ toString col ++ " " ++ grey 246 "]")

/-- A diagnostic with a place has the title first and then the header, which names the place as it
is counted from one. -/
theorem exists_renderAt_eq (d : Diagnostic) (file : String) (index col : Nat) (whole : List Char) :
    ∃ rest, d.renderAt file (index, col, whole) = heading ++ " " ++ d.title ++ "\n" ++
      headerRow file (index + 1) (col + 1) ++ "\n" ++ rest := by
  obtain ⟨more, hrows⟩ : ∃ more, d.renderAt file (index, col, whole) = String.join
      (([heading ++ " " ++ d.title, headerRow file (index + 1) (col + 1)] ++ more).map
        (· ++ "\n")) := ⟨_, rfl⟩
  refine ⟨String.join (more.map (· ++ "\n")), ?_⟩
  simp only [hrows, List.cons_append, List.nil_append, List.map_cons, String.join_cons,
    String.append_assoc]

theorem toList_times (count : Nat) (text : String) :
    (times count text).toList = (List.replicate count text.toList).flatten := by
  rw [times, String.toList_join, List.flatMap_def, List.map_replicate]

/-- The blanks at the beginning of a text are known from the text. -/
theorem replicate_append_inj {m n : Nat} {c d d' : Char} {rest rest' : List Char}
    (h : List.replicate m c ++ d :: rest = List.replicate n c ++ d' :: rest') (hd : d ≠ c)
    (hd' : d' ≠ c) : m = n := by
  have hcount : ∀ (n : Nat) d (rest : List Char), d ≠ c →
      ((List.replicate n c ++ d :: rest).takeWhile (· = c)).length = n := by
    intro n d rest hd
    simp [hd]
  rw [← hcount m d rest hd, h, hcount n d' rest' hd']

theorem toString_inj {m n : Nat} (h : toString m = toString n) : m = n := by
  have hdigits : Nat.toDigits 10 m = Nat.toDigits 10 n := by
    rw [← Nat.toList_repr, ← Nat.toList_repr]
    exact congrArg String.toList h
  rw [← Nat.ofDigitChars_ten_toDigits (n := m), hdigits, Nat.ofDigitChars_ten_toDigits]

/-- A header is that of one line and one column. -/
theorem headerRow_inj {file : String} {line line' col col' : Nat}
    (h : headerRow file line col = headerRow file line' col') : line = line' ∧ col = col' := by
  obtain ⟨front, hfront⟩ : ∃ front,
      (grey 246 "╭" ++ grey 246 "─" ++ grey 246 "[").toList = '\x1b' :: front := ⟨_, rfl⟩
  have hchars : ∀ line col : Nat, (headerRow file line col).toList =
      List.replicate ((toString line).length + 2) ' ' ++ '\x1b' :: (front ++
        ((" " ++ file ++ ":").toList ++ ((toString line).toList ++
          (':' :: ((toString col).toList ++ (" " ++ grey 246 "]").toList))))) := by
    intro line col
    simp only [headerRow, String.toList_append, toList_times, hfront, List.append_assoc]
    simp
  have hrow := congrArg String.toList h
  rw [hchars, hchars] at hrow
  -- The margin is as wide as the number of the line, and so it shows where this number ends.
  have hwidth := replicate_append_inj hrow (by decide) (by decide)
  rw [hwidth] at hrow
  have hnumbers := List.append_cancel_left
    (List.append_cancel_left (List.cons.inj (List.append_cancel_left hrow)).2)
  have hlength : (toString line).toList.length = (toString line').toList.length := by
    simpa only [String.length_toList] using Nat.add_right_cancel hwidth
  obtain ⟨hline, hrest⟩ := List.append_inj hnumbers hlength
  have hcol := List.append_cancel_right (List.cons.inj hrest).2
  exact ⟨toString_inj (String.toList_inj.mp hline), toString_inj (String.toList_inj.mp hcol)⟩

/-- The header of a diagnostic with a place names the line on the page and the column there. The
line is that of the row, and one further for each character before the cell that ends a line on the
page and none of the program. Where there is none, the column is that of the cell, so that the
header names the row and the column, counted from one. It names them nowhere else. -/
theorem header_names_row_iff (h : range? source.toList p = some (a, b)) :
    ∃ (r c col : Nat) (whole : List Char), p = ⟨r, c⟩ ∧
      let strays := Breaks.strays source.toList a
      Breaks.locate (Breaks.lines source.toList) a = some (r + strays, col, whole) ∧
      ∀ (fault : Fault) file, fault.position = p →
        let d := fault.diagnostic
        (∃ rest, d.render file source = heading ++ " " ++ d.title ++ "\n" ++
          headerRow file (r + 1 + strays) (col + 1) ++ "\n" ++ rest) ∧
        (headerRow file (r + 1 + strays) (col + 1) = headerRow file (r + 1) (c + 1) ↔
          strays = 0) := by
  obtain ⟨cut, hcut⟩ := Lines.exists_cutInto source.toList
  obtain ⟨r, c, line, rfl, hline, hcell, ha⟩ :=
    (offset?_eq_some_iff hcut).mp (range?_eq_some_iff.mp h).1
  have hc : c ≤ line.content.length := Nat.le_trans (Nat.le_of_lt hcell) (cellCount_chars_le line)
  have hinside : a < source.toList.length := by
    obtain ⟨char, -, htext, -⟩ := exists_read_of_offset? (range?_eq_some_iff.mp h).1
    exact (List.getElem?_eq_some_iff.mp htext).1
  obtain ⟨col, whole, hplace⟩ := Breaks.exists_locate_lines hinside
  have hcol : Breaks.strays source.toList a = 0 → col = c := by
    intro hnone
    subst ha
    obtain ⟨_, hplace'⟩ := Breaks.locate_lines hinside
      (Lines.endsLine_before_row hcut (List.getElem?_eq_some_iff.mp hline).1)
      (Lines.endsLine_in_row hcut hline hc hnone)
    exact congrArg (·.2.1) (Option.some.inj (hplace.symm.trans hplace'))
  have hended : Breaks.ended source.toList a = r + Breaks.strays source.toList a := by
    rw [Breaks.ended_eq, ha, Lines.count_newline_take_offset hcut hline hc]
  rw [hended] at hplace
  refine ⟨r, c, col, whole, rfl, hplace, fun fault file hposition => ⟨?_, ?_, ?_⟩⟩
  · have hrange : range? source.toList fault.diagnostic.position = some (a, b) := by
      rw [← h, ← hposition]
      rfl
    obtain ⟨rest, hrest⟩ := exists_renderAt_eq fault.diagnostic file
      (r + Breaks.strays source.toList a) col whole
    refine ⟨rest, ?_⟩
    rw [render_of_locate file hrange hplace, hrest, Nat.add_right_comm]
  · intro hsame
    exact Nat.add_eq_left.mp (headerRow_inj hsame).1
  · intro hnone
    rw [hnone, hcol hnone]

/-- Behind a carriage return inside a row and a form feed the header names a line two further than
the row, and counts the column from the form feed. -/
theorem header_names_row_iff_of_strays :
    let source := "\u00e9\ra\r\nb\x0c/@"
    let d := (Cause.divisionByZero.faultAt ⟨1, 2⟩).diagnostic
    range? source.toList ⟨1, 2⟩ = some (7, 8) ∧ Breaks.strays source.toList 7 = 2 ∧
      ∃ rest, d.render "a.bf" source =
        heading ++ " " ++ d.title ++ "\n" ++ headerRow "a.bf" 4 1 ++ "\n" ++ rest := by
  intro source d
  have hrange : range? source.toList ⟨1, 2⟩ = some (7, 8) := by decide
  have hstrays : Breaks.strays source.toList 7 = 2 := by decide
  have hplace : Breaks.locate (Breaks.lines source.toList) 7 = some (3, 0, ['/', '@']) := by decide
  obtain ⟨r, c, col, whole, -, hplace', hshown⟩ := header_names_row_iff hrange
  obtain ⟨rest, hrest⟩ := (hshown (Cause.divisionByZero.faultAt ⟨1, 2⟩) "a.bf" rfl).1
  rw [hstrays] at hplace' hrest
  obtain ⟨hline, hcol⟩ := Prod.mk.inj (Option.some.inj (hplace'.symm.trans hplace))
  obtain rfl : r = 1 := Nat.add_right_cancel hline
  obtain rfl : col = 0 := congrArg Prod.fst hcol
  exact ⟨hrange, hstrays, rest, hrest⟩

end Diagnostic

end Funge
