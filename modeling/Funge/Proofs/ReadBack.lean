import Funge.Proofs.FullSink
import Funge.Proofs.Numerals

/-!
# Output that is read back

A console reads what consoles write. Characters are read back in the order in which they were
written, wherever there are line feeds among them: the reader takes line after line, but over a
sequence of calls that makes no difference (`Console.Holds`). Numbers are read back from lines that
have one number each, with any white space around it. When all is read, the input is at its end for
good (`Console.Spent`).
-/

namespace Funge

namespace CodePoint

/-- A value is the code point of a character: it is in range and no surrogate. -/
def IsScalar (v : Int64) : Prop :=
  (0 ≤ v.toInt ∧ v.toInt < 0xD800) ∨ (0xE000 ≤ v.toInt ∧ v.toInt ≤ 0x10FFFF)

instance (v : Int64) : Decidable (IsScalar v) := inferInstanceAs (Decidable (_ ∨ _))

/-- The character that shows a value has this value if any character has it, and is U+FFFD
otherwise. -/
theorem value_shown (v : Int64) : value (shown v) = if IsScalar v then v else 0xFFFD := by
  have hscalar : (0 ≤ v.toInt ∧ v.toInt.toNat.isValidChar) ↔ IsScalar v := by
    unfold Nat.isValidChar IsScalar
    omega
  rw [shown]
  split
  · next h =>
    have hchar : char? v = some _ := dif_pos (hscalar.mpr h)
    rw [hchar, Option.getD_some, value_of_char? hchar]
  · next h =>
    rw [char?, dif_neg (mt hscalar.mp h), Option.getD_none]
    rfl

end CodePoint

namespace Console

variable {c : Console}

/-! ### Answers to a sequence of calls -/

/-- The answers to some calls, one after another. -/
def replies (c : Console) : List Format → List (Except InputFault Int64)
  | [] => []
  | format :: calls => (format.read c).1 :: (format.read c).2.replies calls

/-- The input is at its end. -/
structure Spent (c : Console) : Prop where
  pending : c.pending = []
  unread : c.unread = []

theorem Spent.read_eq (h : c.Spent) (format : Format) :
    format.read c = (.error .endOfInput, c) := by
  have hnext : c.nextLine = (.error .endOfInput, c) := nextLine_of_nil h.unread
  cases format with
  | integer =>
      have hc : { c with pending := [] } = c := by rw [← h.pending]
      change c.readInteger = _
      rw [readInteger, h.pending, if_pos Blank.trim_nil, hc, hnext]
      rfl
  | char =>
      change c.readChar = _
      rw [readChar, h.pending, hnext]

/-- At the end of the input every call answers so. -/
theorem Spent.replies_eq (h : c.Spent) (calls : List Format) :
    c.replies calls = calls.map fun _ => .error .endOfInput := by
  induction calls with
  | nil => rfl
  | cons format calls ih => rw [replies, h.read_eq, ih, List.map_cons]

/-! ### Characters -/

/-- What a console has to read is a text: the rest of the current line, and behind it what the unread
bytes encode. -/
def Holds (c : Console) (text : List Char) : Prop :=
  ∃ unread, text = c.pending ++ unread ∧ c.unread = Utf8.encode unread

theorem Holds.spent (h : c.Holds []) : c.Spent := by
  obtain ⟨unread, htext, hunread⟩ := h
  obtain ⟨hpending, rfl⟩ := List.append_eq_nil_iff.mp htext.symm
  exact ⟨hpending, hunread⟩

/-- The next character of a text is read, and the rest of the text is left. -/
theorem Holds.read_char {char : Char} {text : List Char} (h : c.Holds (char :: text)) :
    (Format.char.read c).1 = .ok (CodePoint.value char) ∧ (Format.char.read c).2.Holds text := by
  obtain ⟨unread, htext, hunread⟩ := h
  change c.readChar.1 = _ ∧ c.readChar.2.Holds text
  rw [readChar]
  cases hpending : c.pending with
  | cons first pending =>
      rw [hpending, List.cons_append] at htext
      obtain ⟨rfl, rfl⟩ := List.cons.inj htext
      exact ⟨rfl, unread, rfl, hunread⟩
  | nil =>
      rw [hpending, List.nil_append] at htext
      obtain ⟨line, rest, hfirst⟩ := FirstLine.exists_firstLine '\n' unread
      have hne : line ≠ [] := by
        rintro rfl
        rw [hfirst.text_eq_nil] at htext
        cases htext
      obtain ⟨first, pending, rfl⟩ := List.exists_cons_of_ne_nil hne
      have hline := hfirst.encode
      rw [← hunread] at hline
      rw [nextLine_of_text hline hne]
      rw [hfirst.split, List.cons_append] at htext
      obtain ⟨rfl, rfl⟩ := List.cons.inj htext
      exact ⟨rfl, rest, rfl, rfl⟩

/-- A text is read character by character, and then the input is at its end. -/
theorem Holds.replies_chars {text : List Char} (h : c.Holds text) (calls : List Format) :
    c.replies (List.replicate text.length .char ++ calls) =
      text.map (fun char => .ok (CodePoint.value char)) ++
        calls.map fun _ => .error .endOfInput := by
  induction text generalizing c with
  | nil => exact h.spent.replies_eq calls
  | cons char text ih =>
      obtain ⟨hread, hrest⟩ := h.read_char
      rw [List.length_cons, List.replicate_succ, List.cons_append, replies, hread, ih hrest,
        List.map_cons, List.cons_append]

/-! ### Characters that were written -/

/-- The console after some values were written in a form. -/
def afterWriting (c : Console) (format : Format) (values : List Int64) : Console :=
  values.foldl (fun c v => (format.write v c).2) c

/-- A console that takes all output writes every value in turn. -/
theorem written_afterWriting (h : c.sink.Open) (format : Format) (values : List Int64) :
    (c.afterWriting format values).written = c.written ++ values.flatMap format.bytes := by
  induction values generalizing c with
  | nil => exact (List.append_nil _).symm
  | cons v values ih =>
      have hwrite := write_of_open h format v
      have hopen : (format.write v c).2.sink.Open := by
        rw [hwrite]
        exact ⟨h.unlimited, h.passing⟩
      have hwritten : (format.write v c).2.written = c.written ++ format.bytes v := by
        rw [hwrite]
        exact Array.toList_appendList
      change ((format.write v c).2.afterWriting format values).written = _
      rw [ih hopen, hwritten, List.append_assoc, List.flatMap_cons]

theorem flatMap_bytes_char (values : List Int64) :
    values.flatMap Format.char.bytes = Utf8.encode (values.map CodePoint.shown) := by
  induction values with
  | nil => rfl
  | cons v values ih =>
      rw [List.flatMap_cons, ih, List.map_cons, Utf8.encode_cons_eq]
      rfl

/-- Characters that were written are read back. A console that takes all output writes some values as
characters. Given what it wrote as its input, a fresh console reads in their order the values that are
the code point of a character, and U+FFFD for each other one. Then the input is at its end, for every
later call. -/
theorem chars_read_back {out : Console} (hopen : out.sink.Open) (values : List Int64)
    (sink : Sink) :
    ∃ bytes, (out.afterWriting .char values).written = out.written ++ bytes ∧
      ∀ calls : List Format,
        (ofInput bytes sink).replies (List.replicate values.length .char ++ calls) =
          values.map (fun v => .ok (if CodePoint.IsScalar v then v else 0xFFFD)) ++
            calls.map fun _ => .error .endOfInput := by
  refine ⟨_, written_afterWriting hopen .char values, fun calls => ?_⟩
  have hholds : (ofInput (values.flatMap Format.char.bytes) sink).Holds
      (values.map CodePoint.shown) := ⟨_, rfl, flatMap_bytes_char values⟩
  have hreplies := hholds.replies_chars calls
  rw [List.length_map, List.map_map] at hreplies
  rw [hreplies]
  refine congrArg (· ++ _) (List.map_congr_left fun v _ => ?_)
  exact congrArg Except.ok (CodePoint.value_shown v)

/-- A surrogate, a line feed, a negative value, an emoji and a value that is too large. -/
theorem chars_read_back_of_mixed :
    let out := ofInput [] {}
    let values : List Int64 := [0xD800, 10, -3, 0x1F600, 0x110000]
    out.sink.Open ∧ (out.afterWriting .char values).written =
        [239, 191, 189, 10, 239, 191, 189, 240, 159, 152, 128, 239, 191, 189] ∧
      (ofInput (out.afterWriting .char values).written {}).replies
        (List.replicate 5 .char ++ [.char]) =
          [.ok 0xFFFD, .ok 10, .ok 0xFFFD, .ok 0x1F600, .ok 0xFFFD, .error .endOfInput] := by
  intro out values
  have hopen : out.sink.Open := ⟨rfl, rfl⟩
  obtain ⟨bytes, hwritten, hreplies⟩ := chars_read_back hopen values {}
  have hbytes : (out.afterWriting .char values).written = bytes := hwritten
  rw [hbytes]
  refine ⟨hopen, ?_, (hreplies [.char]).trans (by decide)⟩
  rw [← hbytes]
  decide

end Console

/-! ### Numbers that were written -/

/-- A line with a number on it as a console writes it, with white space around it. -/
structure NumberLine where
  left : List Char
  value : Int64
  right : List Char
  left_blank : ∀ c ∈ left, Blank.isBlank c = true ∧ c ≠ '\n'
  right_blank : ∀ c ∈ right, Blank.isBlank c = true ∧ c ≠ '\n'

namespace NumberLine

/-- The bytes of the line: what a fresh console writes for the number, the white space and the line
feed. -/
def bytes (line : NumberLine) : List UInt8 :=
  Utf8.encode line.left ++
    (Format.integer.write line.value (Console.ofInput [] {})).2.written ++
    Utf8.encode line.right ++ [10]

/-- The text of the line without the line feed. -/
def body (line : NumberLine) : List Char :=
  line.left ++ (Decimal.print line.value.toInt ++ [' ']) ++ line.right

variable {line : NumberLine}

theorem bytes_eq (line : NumberLine) : line.bytes = Utf8.encode (line.body ++ ['\n']) := by
  have hwritten : (Format.integer.write line.value (Console.ofInput [] {})).2.written =
      Utf8.encode (Decimal.print line.value.toInt ++ [' ']) := by
    rw [Console.write_of_open ⟨rfl, rfl⟩]
    exact Array.toList_appendList
  simp only [bytes, hwritten, body, Utf8.encode_append, Utf8.encode_newline]

theorem newline_not_mem_body (line : NumberLine) : '\n' ∉ line.body := by
  intro hmem
  obtain ⟨n, hchars, -⟩ := Decimal.exists_numeral_print line.value.toInt
  rcases List.mem_append.mp hmem with hmem | hmem
  · rcases List.mem_append.mp hmem with hmem | hmem
    · exact (line.left_blank _ hmem).2 rfl
    · rcases List.mem_append.mp hmem with hmem | hmem
      · rw [← hchars] at hmem
        cases Decimal.isBlank_of_mem_chars hmem
      · cases List.mem_singleton.mp hmem
  · exact (line.right_blank _ hmem).2 rfl

theorem firstLine (line : NumberLine) (rest : List UInt8) :
    FirstLine 10 (line.bytes ++ rest) (Utf8.encode (line.body ++ ['\n'])) rest := by
  have hmark : (10 : UInt8) ∉ Utf8.encode line.body :=
    mt Utf8.newline_mem_encode_iff.mp line.newline_not_mem_body
  rw [bytes_eq, Utf8.encode_append, Utf8.encode_newline, List.append_assoc]
  exact FirstLine.of_mark hmark

/-- What is left of the line without white space is the numeral. -/
theorem trims (line : NumberLine) :
    Blank.Trims (line.body ++ ['\n']) (Decimal.print line.value.toInt) := by
  obtain ⟨n, hchars, -⟩ := Decimal.exists_numeral_print line.value.toInt
  refine ⟨⟨line.left, ' ' :: line.right ++ ['\n'], ?_, ?_⟩, ?_, ?_⟩
  · simp [body]
  · intro c hc
    simp only [List.cons_append, List.mem_append, List.mem_cons, List.not_mem_nil, or_false] at hc
    rcases hc with hc | rfl | hc | rfl
    · exact (line.left_blank c hc).1
    · rfl
    · exact (line.right_blank c hc).1
    · rfl
  · intro c hc
    rw [← hchars] at hc
    exact Decimal.isBlank_of_mem_chars (List.mem_of_head? hc)
  · intro c hc
    rw [← hchars] at hc
    exact Decimal.isBlank_of_mem_chars (List.mem_of_getLast? hc)

/-- The number on a line is read from it, white space or not. -/
theorem read_integer {c : Console} {rest : List UInt8} (hpending : c.pending = [])
    (hunread : c.unread = line.bytes ++ rest) :
    Format.integer.read c = (.ok line.value, { c with unread := rest }) := by
  have hfirst := line.firstLine rest
  rw [← hunread] at hfirst
  have hvalue : Console.integerOn (line.body ++ ['\n']) = .ok line.value :=
    (Console.integerOn_eq_ok_iff line.trims).mpr (Decimal.exists_numeral_print _)
  change c.readInteger = _
  rw [Console.readInteger_of_line hpending hfirst (List.append_ne_nil_of_right_ne_nil _ nofun),
    hvalue]

end NumberLine

namespace Console

open Decimal (Numeral)

variable {c : Console}

/-- The numbers on some lines are read line by line, and then the input is at its end. -/
theorem replies_integers {lines : List NumberLine} (hpending : c.pending = [])
    (hunread : c.unread = lines.flatMap NumberLine.bytes) (calls : List Format) :
    c.replies (List.replicate lines.length .integer ++ calls) =
      lines.map (fun line => .ok line.value) ++ calls.map fun _ => .error .endOfInput := by
  induction lines generalizing c with
  | nil =>
      have hspent : c.Spent := ⟨hpending, hunread⟩
      exact hspent.replies_eq calls
  | cons line lines ih =>
      rw [List.flatMap_cons] at hunread
      have hrest := ih (c := { c with unread := lines.flatMap NumberLine.bytes }) hpending rfl
      rw [List.length_cons, List.replicate_succ, List.cons_append, replies,
        line.read_integer hpending hunread, hrest, List.map_cons, List.cons_append]

/-- A number is read exactly where there is one. Let nothing be left of the current line, and let the
next one encode a text. Then the white space around this text decides nothing: what is left without
it is a numeral with a number in the range of machine values, and this number is the answer, or it is
reported as it stands. So numbers that were written are read back from lines with one of them each
and any white space around it, and then the input is at its end. -/
theorem readInteger_accepts_exactly_numerals :
    (∀ (c : Console) (text : List Char) (rest : List UInt8), c.pending = [] →
      FirstLine 10 c.unread (Utf8.encode text) rest → text ≠ [] →
      ∃ core, Blank.Trims text core ∧
        (∀ v, c.readInteger.1 = .ok v ↔ ∃ n : Numeral, n.chars = core ∧
          -2 ^ 63 ≤ n.value ∧ n.value ≤ 2 ^ 63 - 1 ∧ v.toInt = n.value) ∧
        ((¬ ∃ n : Numeral, n.chars = core ∧ -2 ^ 63 ≤ n.value ∧ n.value ≤ 2 ^ 63 - 1) →
          c.readInteger.1 = .error (.invalidInteger (String.ofList core))) ∧
        c.readInteger.2 = { c with unread := rest }) ∧
    ∀ (lines : List NumberLine) (sink : Sink) (calls : List Format),
      (ofInput (lines.flatMap NumberLine.bytes) sink).replies
          (List.replicate lines.length .integer ++ calls) =
        lines.map (fun line => .ok line.value) ++ calls.map fun _ => .error .endOfInput := by
  refine ⟨fun c text rest hpending hline hne => ?_, fun lines sink calls =>
    replies_integers (c := ofInput _ sink) rfl rfl calls⟩
  have htrims := Blank.trims_trim text
  have hread := readInteger_of_line hpending hline hne
  refine ⟨Blank.trim text, htrims, fun v => ?_, fun hno => ?_, congrArg Prod.snd hread⟩
  · rw [hread, integerOn_eq_ok_iff htrims]
    constructor
    · rintro ⟨n, hchars, hvalue⟩
      obtain ⟨hlow, hhigh⟩ := Decimal.exists_toInt_eq_iff.mp ⟨v, hvalue.symm⟩
      exact ⟨n, hchars, hlow, hhigh, hvalue.symm⟩
    · rintro ⟨n, hchars, -, -, hvalue⟩
      exact ⟨n, hchars, hvalue.symm⟩
  · rw [hread]
    refine integerOn_of_ne_ok htrims fun v hv => hno ?_
    obtain ⟨n, hchars, hvalue⟩ := (integerOn_eq_ok_iff htrims).mp hv
    exact ⟨n, hchars, Decimal.exists_toInt_eq_iff.mp ⟨v, hvalue.symm⟩⟩

/-- The least value is read with leading zeros and white space that is no single byte. -/
theorem readInteger_accepts_exactly_numerals_of_least :
    let text := "\u2003-009223372036854775808\t\n".toList
    let c := ofInput (Utf8.encode text) {}
    c.pending = [] ∧ FirstLine 10 c.unread (Utf8.encode text) [] ∧ text ≠ [] ∧
      c.readInteger.1 = .ok Int64.minValue := by
  intro text c
  have hline : FirstLine 10 c.unread (Utf8.encode text) [] := FirstLine.iff_cut.mpr (by decide)
  have hne : text ≠ [] := by decide
  obtain ⟨core, htrims, hok, -⟩ := readInteger_accepts_exactly_numerals.1 c text [] rfl hline hne
  have hcore : core = "-009223372036854775808".toList := htrims.trim_eq.symm.trans (by decide)
  let n : Numeral :=
    ⟨.minus, [0, 0, 9, 2, 2, 3, 3, 7, 2, 0, 3, 6, 8, 5, 4, 7, 7, 5, 8, 0, 8], nofun⟩
  have hchars : n.chars = core := by
    rw [hcore]
    decide
  have hvalue : n.value = -2 ^ 63 := by decide
  refine ⟨rfl, hline, hne, (hok _).mpr ⟨n, hchars, ?_, ?_, ?_⟩⟩
  · exact Int.le_of_eq hvalue.symm
  · rw [hvalue]
    decide
  · rw [hvalue]
    decide

/-- The next number is out of range, and a sign alone is no numeral. -/
example :
    (ofInput (Utf8.encode "-9223372036854775809\n + \n".toList) {}).replies
        [.integer, .integer] =
      [.error (.invalidInteger "-9223372036854775809"), .error (.invalidInteger "+")] := by
  decide

end Console

end Funge
