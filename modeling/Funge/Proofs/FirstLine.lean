import Funge.Text.Lines
import Funge.Text.Utf8

/-!
# The first line of some bytes

`Lines.cut` takes the first line off a text, and `FirstLine` says what that is without computing it:
a beginning of the text that has the mark at its end and nowhere else, or the whole text where there
is no mark. It is the first of the text's pieces (`FirstLine.pieces_eq`).

Bytes that encode characters are cut where the characters are, because the byte of the line feed is
part of no other character (`FirstLine.of_encode`). So a text is encoded line by line.
-/

namespace Funge

/-! ### First lines -/

/-- The first line of a text, with the mark that ends it, and what comes after it. Only the last line
of a text can lack the mark. -/
structure FirstLine {α : Type} (mark : α) (text line rest : List α) : Prop where
  split : text = line ++ rest
  inside : mark ∉ line.dropLast
  last : mark ∉ line → rest = []

namespace FirstLine

variable {α : Type} {mark : α} {text line rest : List α}

theorem of_not_mem (h : mark ∉ text) : FirstLine mark text text [] where
  split := (List.append_nil text).symm
  inside hmem := h (List.dropLast_subset _ hmem)
  last _ := rfl

theorem of_mark (h : mark ∉ line) : FirstLine mark (line ++ mark :: rest) (line ++ [mark]) rest where
  split := by rw [List.append_assoc, List.singleton_append]
  inside := by rwa [List.dropLast_concat]
  last hmem := absurd (List.mem_append_right _ (List.mem_singleton_self mark)) hmem

/-- A line that has a mark ends with it. -/
theorem exists_eq_concat (h : FirstLine mark text line rest) (hmem : mark ∈ line) :
    ∃ body, line = body ++ [mark] ∧ mark ∉ body := by
  have hne : line ≠ [] := List.ne_nil_of_mem hmem
  have hsplit := List.dropLast_concat_getLast hne
  refine ⟨line.dropLast, ?_, h.inside⟩
  rw [← hsplit] at hmem
  rcases List.mem_append.mp hmem with hmem | hmem
  · exact absurd hmem h.inside
  · rw [List.mem_singleton.mp hmem]
    exact hsplit.symm

/-- A text without a first line is empty. -/
theorem text_eq_nil (h : FirstLine mark text [] rest) : text = [] := by
  rw [h.split, h.last List.not_mem_nil]
  rfl

variable [DecidableEq α]

theorem cut_of_not_mem (h : mark ∉ line) (rest : List α) :
    Lines.cut mark (line ++ rest) =
      (line ++ (Lines.cut mark rest).1, (Lines.cut mark rest).2) := by
  induction line with
  | nil => rfl
  | cons a line ih =>
      rw [List.mem_cons, not_or] at h
      rw [List.cons_append, Lines.cut, if_neg (Ne.symm h.1), ih h.2]
      rfl

theorem cut_eq (h : FirstLine mark text line rest) : Lines.cut mark text = (line, rest) := by
  by_cases hmem : mark ∈ line
  · obtain ⟨body, rfl, hbody⟩ := h.exists_eq_concat hmem
    rw [h.split, List.append_assoc, cut_of_not_mem hbody, List.singleton_append, Lines.cut,
      if_pos rfl]
  · obtain rfl := h.last hmem
    rw [h.split, cut_of_not_mem hmem, Lines.cut, List.append_nil]

theorem unique {line' rest' : List α} (h : FirstLine mark text line rest)
    (h' : FirstLine mark text line' rest') : line = line' ∧ rest = rest' :=
  Prod.mk.inj (h.cut_eq.symm.trans h'.cut_eq)

/-- What is in front of the first mark is known from the text. -/
theorem append_mark_inj {line' rest' : List α} (h : mark ∉ line) (h' : mark ∉ line')
    (htext : line ++ mark :: rest = line' ++ mark :: rest') : line = line' ∧ rest = rest' := by
  have hfirst : FirstLine mark (line ++ mark :: rest) (line' ++ [mark]) rest' :=
    htext ▸ of_mark h'
  obtain ⟨hline, hrest⟩ := (of_mark h).unique hfirst
  exact ⟨List.append_cancel_right hline, hrest⟩

theorem exists_firstLine (mark : α) (text : List α) :
    ∃ line rest, FirstLine mark text line rest := by
  by_cases hmem : mark ∈ text
  · obtain ⟨body, rest, rfl, hbody⟩ := List.eq_append_cons_of_mem hmem
    exact ⟨_, _, of_mark hbody⟩
  · exact ⟨_, _, of_not_mem hmem⟩

/-- The cut takes exactly the first line. -/
theorem iff_cut : FirstLine mark text line rest ↔ Lines.cut mark text = (line, rest) := by
  refine ⟨cut_eq, fun h => ?_⟩
  obtain ⟨line', rest', hfirst⟩ := exists_firstLine mark text
  obtain ⟨rfl, rfl⟩ := Prod.mk.inj (hfirst.cut_eq.symm.trans h)
  exact hfirst

/-- The first line is the first of the pieces. -/
theorem pieces_eq (h : FirstLine mark text line rest) (hne : line ≠ []) :
    Lines.pieces mark text = line :: Lines.pieces mark rest := by
  rw [h.split]
  obtain ⟨hinside, hlast⟩ := And.intro h.inside h.last
  clear h
  -- Induction on the line. Its last element ends the piece and every other one joins it.
  induction line with
  | nil => exact absurd rfl hne
  | cons a line ih =>
      rw [List.cons_append, Lines.pieces_cons]
      cases line with
      | nil =>
          rw [List.nil_append]
          by_cases ha : a = mark
          · cases hrest : Lines.pieces mark rest with
            | nil => rfl
            | cons piece pieces => rw [Lines.cons, if_pos ha]
          · rw [hlast (mt (fun h => (List.mem_singleton.mp h).symm) ha)]
            rfl
      | cons b line =>
          rw [List.dropLast_cons_cons, List.mem_cons, not_or] at hinside
          rw [ih (List.cons_ne_nil b line) hinside.2
            fun h => hlast fun hmem => (List.mem_cons.mp hmem).elim hinside.1 h]
          rw [Lines.cons, if_neg (Ne.symm hinside.1)]

end FirstLine

/-- Only the end of a piece is a mark. -/
theorem Lines.not_mem_dropLast_of_mem_pieces {α : Type} [DecidableEq α] {mark : α}
    {text piece : List α} (h : piece ∈ Lines.pieces mark text) : mark ∉ piece.dropLast := by
  induction text generalizing piece with
  | nil => cases h
  | cons a text ih =>
      rw [Lines.pieces_cons] at h
      cases hpieces : Lines.pieces mark text with
      | nil =>
          rw [hpieces] at h
          rw [List.mem_singleton.mp h]
          exact List.not_mem_nil
      | cons first rest =>
          rw [hpieces] at h ih
          by_cases ha : a = mark
          · rw [Lines.cons, if_pos ha] at h
            rcases List.mem_cons.mp h with rfl | h
            · exact List.not_mem_nil
            · exact ih h
          · rw [Lines.cons, if_neg ha] at h
            rcases List.mem_cons.mp h with rfl | h
            · cases first with
              | nil => exact List.not_mem_nil
              | cons b first =>
                  rw [List.dropLast_cons_cons, List.mem_cons, not_or]
                  exact ⟨Ne.symm ha, ih List.mem_cons_self⟩
            · exact ih (List.mem_cons_of_mem _ h)

/-! ### Encoded text -/

namespace Utf8

/-- The byte of the line feed is the line feed's own and occurs in no other character. -/
theorem newline_mem_encodeChar_iff {c : Char} : 10 ∈ String.utf8EncodeChar c ↔ c = '\n' := by
  have hten : ∀ n, (10 : UInt8) = UInt8.ofNat n ↔ n % 256 = 10 := by
    intro n
    rw [← UInt8.toNat_inj, UInt8.toNat_ofNat']
    exact eq_comm
  have hnewline : c = '\n' ↔ c.val.toNat = 10 := by
    rw [← Char.toNat_inj]
    rfl
  rw [String.utf8EncodeChar.eq_1, hnewline]
  -- One case for each length of a character's form; only the shortest has bytes below 128.
  split
  · simp only [List.mem_singleton, hten]
    omega
  · split
    · simp only [List.mem_cons, List.not_mem_nil, or_false, hten]
      omega
    · split
      · simp only [List.mem_cons, List.not_mem_nil, or_false, hten]
        omega
      · simp only [List.mem_cons, List.not_mem_nil, or_false, hten]
        omega

theorem encode_newline : encode ['\n'] = [10] := rfl

theorem newline_mem_encode_iff {cs : List Char} : 10 ∈ encode cs ↔ '\n' ∈ cs := by
  rw [encode, List.mem_flatMap]
  constructor
  · rintro ⟨c, hc, hmem⟩
    rwa [newline_mem_encodeChar_iff.mp hmem] at hc
  · intro hc
    exact ⟨'\n', hc, newline_mem_encodeChar_iff.mpr rfl⟩

theorem encode_injective {cs ds : List Char} (h : encode cs = encode ds) : cs = ds := by
  have hd : decode? (encode cs) = some ds := by rw [h, decode?_encode]
  rw [decode?_encode] at hd
  exact Option.some.inj hd

theorem encode_cons_eq (c : Char) (cs : List Char) : encode (c :: cs) = encode [c] ++ encode cs :=
  encode_append [c] cs

theorem encode_ne_nil {cs : List Char} (h : cs ≠ []) : encode cs ≠ [] :=
  fun hnil => h (encode_injective (hnil.trans encode_nil.symm))

end Utf8

/-- The first line of an encoded text is the encoded first line. -/
theorem FirstLine.encode {text line rest : List Char} (h : FirstLine '\n' text line rest) :
    FirstLine 10 (Utf8.encode text) (Utf8.encode line) (Utf8.encode rest) := by
  by_cases hmem : '\n' ∈ line
  · obtain ⟨body, rfl, hbody⟩ := h.exists_eq_concat hmem
    rw [h.split, Utf8.encode_append, Utf8.encode_append, Utf8.encode_newline, List.append_assoc]
    exact of_mark (mt Utf8.newline_mem_encode_iff.mp hbody)
  · obtain rfl := h.last hmem
    rw [h.split, List.append_nil]
    exact of_not_mem (mt Utf8.newline_mem_encode_iff.mp hmem)

/-- A line of an encoded text is an encoded line. -/
theorem FirstLine.of_encode {text : List Char} {line rest : List UInt8}
    (h : FirstLine 10 (Utf8.encode text) line rest) :
    ∃ line' rest', line = Utf8.encode line' ∧ rest = Utf8.encode rest' ∧
      FirstLine '\n' text line' rest' := by
  obtain ⟨line', rest', hfirst⟩ := exists_firstLine '\n' text
  obtain ⟨rfl, rfl⟩ := h.unique hfirst.encode
  exact ⟨line', rest', rfl, rfl, hfirst⟩

end Funge
