import Mathlib.Data.List.DropRight
import Mathlib.Data.List.TakeWhile
import Funge.Console
import Funge.Proofs.Effect
import Funge.Proofs.FirstLine

/-!
# What reading takes from the input

Numbers and characters are read from the same lines, in any order. `Reads` says of one call what it
takes from the console, what it answers and what it leaves; a call always follows it
(`reads_taken`). Over a sequence of calls nothing is lost, repeated or reordered: the input is what
the calls took one after another, then the rest of the current line, then the bytes no line was taken
from yet (`reading_accounts_for_input`).

The input is bytes and a line is decoded when it is taken. So a malformed line harms one call only,
and an input that encodes a text is read as that text.
-/

namespace Funge

/-! ### White space around a text -/

namespace Blank

/-- A text without the white space around it: it is cut on both sides as far as there is any. -/
structure Trims (text core : List Char) : Prop where
  around : ∃ left right, text = left ++ core ++ right ∧ ∀ c ∈ left ++ right, isBlank c = true
  first : ∀ c, core.head? = some c → isBlank c = false
  last : ∀ c, core.getLast? = some c → isBlank c = false

theorem trims_trim (text : List Char) : Trims text (trim text) := by
  have hleft : text.takeWhile isBlank ++ text.dropWhile isBlank = text :=
    List.takeWhile_append_dropWhile
  have hright : trim text ++ (text.dropWhile isBlank).rtakeWhile isBlank =
      text.dropWhile isBlank := List.rdropWhile_append_rtakeWhile
  refine ⟨⟨text.takeWhile isBlank, (text.dropWhile isBlank).rtakeWhile isBlank, ?_, ?_⟩, ?_, ?_⟩
  · rw [List.append_assoc, hright, hleft]
  · intro c hc
    rcases List.mem_append.mp hc with hc | hc
    · exact List.mem_takeWhile_imp hc
    · exact List.mem_rtakeWhile_imp hc
  · intro c hc
    have hhead : (text.dropWhile isBlank).head? = some c := by
      rw [← hright]
      exact List.mem_head?_append_of_mem_head? hc
    have hnot := List.head?_dropWhile_not isBlank text
    rwa [hhead] at hnot
  · intro c hc
    obtain ⟨hne, rfl⟩ := List.mem_getLast?_eq_getLast hc
    exact Bool.eq_false_iff.mpr (List.rdropWhile_last_not _ _ hne)

/-- Nothing is left of a text exactly if there is nothing but white space in it. -/
theorem Trims.eq_nil_iff {text core : List Char} (h : Trims text core) :
    core = [] ↔ ∀ c ∈ text, isBlank c = true := by
  obtain ⟨left, right, rfl, haround⟩ := h.around
  constructor
  · rintro rfl
    rwa [List.append_nil]
  · intro hall
    cases core with
    | nil => rfl
    | cons c core =>
        have hc := hall c (List.mem_append_left _ (List.mem_append_right _ List.mem_cons_self))
        cases hc.symm.trans (h.first c rfl)

end Blank

namespace Console

/-! ### One call -/

/-- What a request for the next line takes from the unread bytes, what it answers, and the bytes that
are left: the text of the next line, a fault for a line that encodes no text, and the end of the
input when there is no line. -/
inductive Supplies (unread : List UInt8) :
    List UInt8 → Except InputFault (List Char) → List UInt8 → Prop
  | text {chars : List Char} {rest : List UInt8} :
      FirstLine 10 unread (Utf8.encode chars) rest → chars ≠ [] →
      Supplies unread (Utf8.encode chars) (.ok chars) rest
  | malformed {line rest : List UInt8} :
      FirstLine 10 unread line rest → (∀ chars, line ≠ Utf8.encode chars) →
      Supplies unread line (.error (.device ⟨"stream did not contain valid UTF-8"⟩)) rest
  | nothing : unread = [] → Supplies unread [] (.error .endOfInput) []

/-- The answer that a text decides: the number its numeral names, or a fault that tells what stands
there instead. White space around it does not count. -/
inductive Decides (text : List Char) : Except InputFault Int64 → Prop
  | number {numeral : List Char} {v : Int64} : Blank.Trims text numeral →
      Decimal.toInt64? numeral = some v → Decides text (.ok v)
  | invalid {core : List Char} : Blank.Trims text core →
      Decimal.toInt64? core = none → Decides text (.error (.invalidInteger (String.ofList core)))

/-- What a call takes from a console, what it answers, and the console it leaves. -/
inductive Reads (c : Console) :
    Format → List UInt8 → Except InputFault Int64 → Console → Prop
  /-- A character of the current line. -/
  | char {char : Char} {chars : List Char} : c.pending = char :: chars →
      Reads c .char (Utf8.encode [char]) (.ok (CodePoint.value char)) { c with pending := chars }
  /-- The first character of the next line. -/
  | charOfNext {char : Char} {chars : List Char} {rest : List UInt8} : c.pending = [] →
      Supplies c.unread (Utf8.encode (char :: chars)) (.ok (char :: chars)) rest →
      Reads c .char (Utf8.encode [char]) (.ok (CodePoint.value char))
        { c with unread := rest, pending := chars }
  /-- No character, for want of a next line. -/
  | noChar {line rest : List UInt8} {fault : InputFault} : c.pending = [] →
      Supplies c.unread line (.error fault) rest →
      Reads c .char line (.error fault) { c with unread := rest }
  /-- The rest of the current line, where that is not blank. -/
  | integer {answer : Except InputFault Int64} :
      (∃ char ∈ c.pending, Blank.isBlank char = false) → Decides c.pending answer →
      Reads c .integer (Utf8.encode c.pending) answer { c with pending := [] }
  /-- The next line, after a blank rest of the current one. -/
  | integerOfNext {chars : List Char} {rest : List UInt8} {answer : Except InputFault Int64} :
      (∀ char ∈ c.pending, Blank.isBlank char = true) →
      Supplies c.unread (Utf8.encode chars) (.ok chars) rest → Decides chars answer →
      Reads c .integer (Utf8.encode c.pending ++ Utf8.encode chars) answer
        { c with unread := rest, pending := [] }
  /-- No number, for want of a next line after a blank rest. -/
  | noInteger {line rest : List UInt8} {fault : InputFault} :
      (∀ char ∈ c.pending, Blank.isBlank char = true) →
      Supplies c.unread line (.error fault) rest →
      Reads c .integer (Utf8.encode c.pending ++ line) (.error fault)
        { c with unread := rest, pending := [] }

/-- The bytes of the input that a console still has: the rest of the current line and what no line
was taken from. -/
def held (c : Console) : List UInt8 := Utf8.encode c.pending ++ c.unread

/-- The bytes that a call takes: those the console has before it and no more after it. -/
def taken (c : Console) (format : Format) : List UInt8 :=
  c.held.take (c.held.length - (format.read c).2.held.length)

variable {c after : Console} {format : Format} {bytes : List UInt8} {answer : Except InputFault Int64}

theorem Supplies.split {unread line rest : List UInt8} {text : Except InputFault (List Char)}
    (h : Supplies unread line text rest) : unread = line ++ rest := by
  cases h with
  | text hfirst => exact hfirst.split
  | malformed hfirst => exact hfirst.split
  | nothing hnil => exact hnil

theorem nextLine_of_firstLine {line rest : List UInt8} (h : FirstLine 10 c.unread line rest)
    (hne : line ≠ []) :
    c.nextLine = match Utf8.decode? line with
      | some text => (.ok text, { c with unread := rest })
      | none =>
        (.error (.device ⟨"stream did not contain valid UTF-8"⟩), { c with unread := rest }) := by
  obtain ⟨b, bytes, rfl⟩ := List.exists_cons_of_ne_nil hne
  rw [nextLine, h.cut_eq]
  rfl

/-- A line that encodes a text is taken as this text. -/
theorem nextLine_of_text {line : List Char} {rest : List UInt8}
    (h : FirstLine 10 c.unread (Utf8.encode line) rest) (hne : line ≠ []) :
    c.nextLine = (.ok line, { c with unread := rest }) := by
  rw [nextLine_of_firstLine h (Utf8.encode_ne_nil hne), Utf8.decode?_encode]

theorem nextLine_of_nil (h : c.unread = []) : c.nextLine = (.error .endOfInput, c) := by
  rw [nextLine, h]
  rfl

/-- The next line is taken as `Supplies` says. -/
theorem exists_supplies (c : Console) :
    ∃ line text rest, Supplies c.unread line text rest ∧
      c.nextLine = (text, { c with unread := rest }) := by
  obtain ⟨line, rest, hfirst⟩ := FirstLine.exists_firstLine 10 c.unread
  by_cases hne : line = []
  · subst hne
    have hnil : c.unread = [] := hfirst.text_eq_nil
    refine ⟨_, _, _, .nothing hnil, ?_⟩
    rw [nextLine_of_nil hnil, ← hnil]
  · have hnext := nextLine_of_firstLine hfirst hne
    cases htext : Utf8.decode? line with
    | some chars =>
        rw [htext] at hnext
        obtain rfl := Utf8.eq_encode_of_decode? htext
        exact ⟨_, _, _, .text hfirst (mt (congrArg Utf8.encode) hne), hnext⟩
    | none =>
        rw [htext] at hnext
        have hno : ∀ chars, line ≠ Utf8.encode chars := by
          rintro chars rfl
          rw [Utf8.decode?_encode] at htext
          cases htext
        exact ⟨_, _, _, .malformed hfirst hno, hnext⟩

theorem decides_integerOn (text : List Char) : Decides text (integerOn text) := by
  rw [integerOn]
  cases h : Decimal.toInt64? (Blank.trim text) with
  | some v => exact .number (Blank.trims_trim text) h
  | none => exact .invalid (Blank.trims_trim text) h

/-- What a call takes is the beginning of what the console held, and it keeps the rest. -/
theorem Reads.held_eq (h : Reads c format bytes answer after) : c.held = bytes ++ after.held := by
  cases h with
  | char hpending =>
      rw [held, hpending, Utf8.encode_cons_eq]
      exact List.append_assoc _ _ _
  | charOfNext hpending hnext =>
      rw [held, hpending, hnext.split, Utf8.encode_cons_eq]
      exact List.append_assoc _ _ _
  | noChar hpending hnext =>
      rw [held, held, hpending, hnext.split]
      rfl
  | integer => rfl
  | integerOfNext _ hnext =>
      rw [held, hnext.split]
      exact (List.append_assoc _ _ _).symm
  | noInteger _ hnext =>
      rw [held, hnext.split]
      exact (List.append_assoc _ _ _).symm

/-- A request that supplies a text takes the bytes of that text, which is not empty. -/
theorem Supplies.of_ok {unread line rest : List UInt8} {chars : List Char}
    (h : Supplies unread line (.ok chars) rest) : line = Utf8.encode chars ∧ chars ≠ [] := by
  cases h with
  | text _ hne => exact ⟨rfl, hne⟩

/-- A request for a number leaves nothing of the current line. -/
theorem Reads.pending_eq_nil (h : Reads c .integer bytes answer after) : after.pending = [] := by
  cases h with
  | integer => rfl
  | integerOfNext => rfl
  | noInteger => rfl

theorem exists_reads_char (c : Console) :
    ∃ bytes, Reads c .char bytes c.readChar.1 c.readChar.2 := by
  rw [readChar]
  cases hpending : c.pending with
  | cons char chars => exact ⟨_, .char hpending⟩
  | nil =>
      obtain ⟨line, text, rest, hsupply, hnext⟩ := exists_supplies c
      rw [hnext]
      cases text with
      | error fault => exact ⟨line, .noChar hpending hsupply⟩
      | ok chars =>
          obtain ⟨rfl, hne⟩ := hsupply.of_ok
          obtain ⟨char, chars, rfl⟩ := List.exists_cons_of_ne_nil hne
          exact ⟨_, .charOfNext hpending hsupply⟩

theorem exists_reads_integer (c : Console) :
    ∃ bytes, Reads c .integer bytes c.readInteger.1 c.readInteger.2 := by
  rw [readInteger]
  by_cases hblank : Blank.trim c.pending = []
  · obtain ⟨line, text, rest, hsupply, hnext⟩ := exists_supplies { c with pending := [] }
    rw [if_pos hblank, hnext]
    rw [(Blank.trims_trim _).eq_nil_iff] at hblank
    cases text with
    | error fault => exact ⟨_, .noInteger hblank hsupply⟩
    | ok chars =>
        obtain ⟨rfl, -⟩ := hsupply.of_ok
        exact ⟨_, .integerOfNext hblank hsupply (decides_integerOn chars)⟩
  · rw [if_neg hblank]
    refine ⟨_, .integer ?_ (decides_integerOn c.pending)⟩
    rw [(Blank.trims_trim _).eq_nil_iff] at hblank
    simpa using hblank

/-- Every call follows its specification. -/
theorem reads_taken (c : Console) (format : Format) :
    Reads c format (c.taken format) (format.read c).1 (format.read c).2 := by
  have hreads : ∃ bytes, Reads c format bytes (format.read c).1 (format.read c).2 := by
    cases format with
    | integer => exact exists_reads_integer c
    | char => exact exists_reads_char c
  obtain ⟨bytes, h⟩ := hreads
  have htaken : c.taken format = bytes := by
    rw [taken, h.held_eq, List.length_append, Nat.add_sub_cancel_right, List.take_left']
    rfl
  rwa [htaken]

/-! ### A sequence of calls -/

/-- The console after some calls. -/
def afterReading (c : Console) : List Format → Console
  | [] => c
  | format :: calls => (format.read c).2.afterReading calls

/-- What some calls take, one after another. -/
def takenBy (c : Console) : List Format → List UInt8
  | [] => []
  | format :: calls => c.taken format ++ (format.read c).2.takenBy calls

theorem afterReading_append (c : Console) (calls more : List Format) :
    c.afterReading (calls ++ more) = (c.afterReading calls).afterReading more := by
  induction calls generalizing c with
  | nil => rfl
  | cons format calls ih => exact ih _

/-- What some calls take and what is held after them is what was held before. -/
theorem takenBy_append_held (c : Console) (calls : List Format) :
    c.takenBy calls ++ (c.afterReading calls).held = c.held := by
  induction calls generalizing c with
  | nil => rfl
  | cons format calls ih =>
      rw [takenBy, List.append_assoc, afterReading, ih, ← (reads_taken c format).held_eq]

/-- Where a console is in its input: after these lines of it, with the rest of the last one still to
be read. -/
structure StandsAfter (input : List UInt8) (lines : List (List UInt8)) (c : Console) : Prop where
  pieces : Lines.pieces 10 input = lines ++ Lines.pieces 10 c.unread
  onLine : c.pending = [] ∨ ∃ line, lines.getLast? = some line ∧ Utf8.encode c.pending <:+ line

namespace StandsAfter

variable {input : List UInt8} {lines : List (List UInt8)}

theorem ofInput (input : List UInt8) (sink : Sink) : StandsAfter input [] (ofInput input sink) where
  pieces := rfl
  onLine := .inl rfl

/-- A request for the next line takes one line more, or nothing at the end of the input. -/
theorem exists_pieces_of_supplies (h : StandsAfter input lines c) {line rest : List UInt8}
    {text : Except InputFault (List Char)} (hsupply : Supplies c.unread line text rest) :
    ∃ more, Lines.pieces 10 input = (lines ++ more) ++ Lines.pieces 10 rest ∧
      (line ≠ [] → more = [line]) := by
  by_cases hne : line = []
  · subst hne
    refine ⟨[], ?_, fun h => absurd rfl h⟩
    rw [List.append_nil, h.pieces, hsupply.split]
    rfl
  · have hfirst : FirstLine 10 c.unread line rest := by
      cases hsupply with
      | text hfirst => exact hfirst
      | malformed hfirst => exact hfirst
      | nothing => exact absurd rfl hne
    refine ⟨[line], ?_, fun _ => rfl⟩
    rw [h.pieces, hfirst.pieces_eq hne, List.append_assoc]
    rfl

/-- A call takes the rest of a line, or lines that come next. -/
theorem of_reads (h : StandsAfter input lines c) (hreads : Reads c format bytes answer after) :
    ∃ more, StandsAfter input (lines ++ more) after := by
  cases hreads with
  | @char char chars hpending =>
      refine ⟨[], ?_, .inr ?_⟩
      · rw [List.append_nil]
        exact h.pieces
      · obtain hnil | ⟨line, hlast, hsuffix⟩ := h.onLine
        · rw [hpending] at hnil
          cases hnil
        · rw [hpending] at hsuffix
          rw [List.append_nil]
          exact ⟨line, hlast, List.IsSuffix.trans (List.suffix_append _ _) hsuffix⟩
  | @charOfNext char chars rest hpending hsupply =>
      obtain ⟨more, hpieces, hmore⟩ := h.exists_pieces_of_supplies hsupply
      obtain ⟨-, hne⟩ := hsupply.of_ok
      obtain rfl := hmore (Utf8.encode_ne_nil hne)
      exact ⟨_, hpieces, .inr ⟨_, List.getLast?_concat, List.suffix_append _ _⟩⟩
  | noChar hpending hsupply =>
      obtain ⟨more, hpieces, -⟩ := h.exists_pieces_of_supplies hsupply
      exact ⟨more, hpieces, .inl hpending⟩
  | integer =>
      refine ⟨[], ?_, .inl rfl⟩
      rw [List.append_nil]
      exact h.pieces
  | integerOfNext _ hsupply =>
      obtain ⟨more, hpieces, -⟩ := h.exists_pieces_of_supplies hsupply
      exact ⟨more, hpieces, .inl rfl⟩
  | noInteger _ hsupply =>
      obtain ⟨more, hpieces, -⟩ := h.exists_pieces_of_supplies hsupply
      exact ⟨more, hpieces, .inl rfl⟩

theorem afterReading (h : StandsAfter input lines c) (calls : List Format) :
    ∃ more, StandsAfter input (lines ++ more) (c.afterReading calls) := by
  induction calls generalizing c lines with
  | nil =>
      refine ⟨[], ?_⟩
      rwa [List.append_nil]
  | cons format calls ih =>
      obtain ⟨more, hread⟩ := h.of_reads (reads_taken c format)
      obtain ⟨later, hlater⟩ := ih hread
      refine ⟨more ++ later, ?_⟩
      rwa [← List.append_assoc]

/-- The rest of the current line has a line feed at its end, or none. -/
theorem newline_not_mem (h : StandsAfter input lines c) : '\n' ∉ c.pending.dropLast := by
  obtain hnil | ⟨line, hlast, before, hline⟩ := h.onLine
  · rw [hnil]
    exact List.not_mem_nil
  · intro hmem
    have hpiece : line ∈ Lines.pieces 10 input := by
      rw [h.pieces]
      exact List.mem_append_left _ (List.mem_of_getLast? hlast)
    have hne : c.pending ≠ [] := fun hnil => by
      rw [hnil] at hmem
      cases hmem
    refine Lines.not_mem_dropLast_of_mem_pieces hpiece ?_
    rw [← hline, ← List.dropLast_concat_getLast hne, Utf8.encode_append, ← List.append_assoc,
      List.dropLast_append_of_ne_nil (Utf8.encode_ne_nil (List.cons_ne_nil _ _))]
    exact List.mem_append_left _ (List.mem_append_right _ (Utf8.newline_mem_encode_iff.mpr hmem))

end StandsAfter

/-! ### Input that encodes a text -/

theorem Supplies.of_encode {unread : List Char} {line rest : List UInt8}
    {text : Except InputFault (List Char)} (h : Supplies (Utf8.encode unread) line text rest) :
    ∃ chars left, line = Utf8.encode chars ∧ rest = Utf8.encode left ∧
      ∀ fault, text ≠ .error (.device fault) := by
  cases h with
  | text hfirst =>
      obtain ⟨chars, left, hline, hrest, -⟩ := hfirst.of_encode
      exact ⟨chars, left, hline, hrest, nofun⟩
  | malformed hfirst hno =>
      obtain ⟨chars, left, hline, -⟩ := hfirst.of_encode
      exact absurd hline (hno chars)
  | nothing => exact ⟨[], [], rfl, rfl, nofun⟩

/-- While the unread bytes encode a text, a call takes a text and leaves one, and the device does not
fail. -/
theorem Reads.of_encode {unread : List Char} (h : Reads c format bytes answer after)
    (hunread : c.unread = Utf8.encode unread) :
    ∃ chars left, bytes = Utf8.encode chars ∧ after.unread = Utf8.encode left ∧
      ∀ fault, answer ≠ .error (.device fault) := by
  cases h with
  | char => exact ⟨_, _, rfl, hunread, nofun⟩
  | charOfNext _ hsupply =>
      rw [hunread] at hsupply
      obtain ⟨chars, left, -, hrest, -⟩ := hsupply.of_encode
      exact ⟨_, left, rfl, hrest, nofun⟩
  | noChar _ hsupply =>
      rw [hunread] at hsupply
      obtain ⟨chars, left, hline, hrest, hfault⟩ := hsupply.of_encode
      refine ⟨chars, left, hline, hrest, ?_⟩
      rintro fault ⟨⟩
      exact hfault _ rfl
  | integer _ hdecides =>
      refine ⟨_, _, rfl, hunread, ?_⟩
      rintro fault rfl
      cases hdecides
  | integerOfNext _ hsupply hdecides =>
      rw [hunread] at hsupply
      obtain ⟨chars, left, -, hrest, -⟩ := hsupply.of_encode
      refine ⟨_, left, (Utf8.encode_append _ _).symm, hrest, ?_⟩
      rintro fault rfl
      cases hdecides
  | noInteger _ hsupply =>
      rw [hunread] at hsupply
      obtain ⟨chars, left, rfl, hrest, hfault⟩ := hsupply.of_encode
      refine ⟨_, left, (Utf8.encode_append _ _).symm, hrest, ?_⟩
      rintro fault ⟨⟩
      exact hfault _ rfl

theorem exists_text_of_encode {unread : List Char} (hunread : c.unread = Utf8.encode unread)
    (calls : List Format) :
    ∃ done left, c.takenBy calls = Utf8.encode done ∧
      (c.afterReading calls).unread = Utf8.encode left := by
  induction calls generalizing c unread with
  | nil => exact ⟨[], unread, rfl, hunread⟩
  | cons format calls ih =>
      obtain ⟨chars, left, htaken, hleft, -⟩ := (reads_taken c format).of_encode hunread
      obtain ⟨done, left', hdone, hleft'⟩ := ih hleft
      refine ⟨chars ++ done, left', ?_, hleft'⟩
      rw [takenBy, htaken, hdone, Utf8.encode_append]

/-! ### The whole input -/

/-- After any calls in any order on a fresh console, the input is what they took one after another,
then the rest of the current line, then whole lines. The next call takes from this and answers as
`Reads` says. Input that encodes a text is taken character by character, and its device does not fail. -/
theorem reading_accounts_for_input (input : List UInt8) (sink : Sink) (calls : List Format) :
    let start := ofInput input sink
    let c := start.afterReading calls
    input = start.takenBy calls ++ Utf8.encode c.pending ++ c.unread ∧
      (∃ lines, StandsAfter input lines c) ∧
      '\n' ∉ c.pending.dropLast ∧
      (calls.getLast? = some .integer → c.pending = []) ∧
      (∀ format, Reads c format (c.taken format) (format.read c).1 (format.read c).2) ∧
      (∀ text, input = Utf8.encode text →
        ∃ done left, text = done ++ c.pending ++ left ∧
          start.takenBy calls = Utf8.encode done ∧ c.unread = Utf8.encode left ∧
          ∀ (format : Format) fault, (format.read c).1 ≠ .error (.device fault)) := by
  intro start c
  have hsplit : input = start.takenBy calls ++ Utf8.encode c.pending ++ c.unread := by
    rw [List.append_assoc]
    exact (takenBy_append_held start calls).symm
  obtain ⟨lines, hstands⟩ := (StandsAfter.ofInput input sink).afterReading calls
  refine ⟨hsplit, ⟨_, hstands⟩, hstands.newline_not_mem, ?_, reads_taken c, ?_⟩
  · intro hlast
    obtain ⟨init, rfl⟩ := List.getLast?_eq_some_iff.mp hlast
    change (start.afterReading (init ++ [.integer])).pending = []
    rw [afterReading_append]
    exact (reads_taken _ .integer).pending_eq_nil
  · intro text htext
    obtain ⟨done, left, hdone, hleft⟩ := exists_text_of_encode (c := start) htext calls
    refine ⟨done, left, ?_, hdone, hleft, ?_⟩
    · apply Utf8.encode_injective
      rw [← htext, hsplit, hdone, hleft, Utf8.encode_append, Utf8.encode_append]
    · intro format
      obtain ⟨-, -, -, -, hfault⟩ := (reads_taken c format).of_encode hleft
      exact hfault

/-- A line feed that is left over belongs to no further line, while an empty line is a number that
cannot be read. -/
example :
    let c := (ofInput (Utf8.encode ['a', '\n', '\n', '5', '\n']) {}).afterReading [.char]
    c.taken .integer = [10, 10] ∧ (Format.integer.read c).1 = .error (.invalidInteger "") ∧
      (Format.integer.read c).2.unread = Utf8.encode ['5', '\n'] := by
  decide

end Console

end Funge
