import Mathlib.Data.List.Induction
import Funge.Proofs.StraightLine

/-!
# Printing a string

Between two quotes a program has characters as data: each is pushed by its code point, whatever it
would do elsewhere (`stepN_of_literal`). Writing them one by one takes them off the stack again, the
last one first (`stepN_of_commas`), so a string that is pushed and written comes out reversed, byte by
byte in UTF-8.
-/

namespace Funge

/-- The program that pushes the characters of a text and then writes as many. -/
def printing (text : List Char) : List Char :=
  '\x22' :: (text ++ '\x22' :: (List.replicate text.length ',' ++ ['@']))

/-- The stack with the code points of some characters on top, the last one uppermost. -/
def Stack.pushChars (s : Stack) (text : List Char) : Stack :=
  s.pushAll (text.map CodePoint.value)

namespace Stack

theorem pushChars_concat (s : Stack) (text : List Char) (char : Char) :
    s.pushChars (text ++ [char]) = (s.pushChars text).push (CodePoint.value char) := by
  rw [pushChars, List.map_append, pushAll_append]
  rfl

theorem toList_pushChars (s : Stack) (text : List Char) :
    (s.pushChars text).toList = s.toList ++ text.map CodePoint.value := toList_pushAll ..

end Stack

namespace Machine

variable {σ : Type} [Host σ] {m : Machine} {text rest : List Char}

/-! ### Pushing a string -/

/-- Characters that are data are pushed one after another. -/
theorem stepN_of_data (h : m.Faces (text ++ rest)) (hmode : m.stringMode = true)
    (hquote : '\x22' ∉ text) (host : σ) :
    stepN text.length m host =
      ((m.holding (m.stack.pushChars text)).ahead text.length, host) := by
  induction text generalizing m with
  | nil => exact congrArg (·, host) (ahead_zero m).symm
  | cons char text ih =>
      rw [List.mem_cons, not_or] at hquote
      have hnext := (h.holding (m.stack.push (CodePoint.value char))).next
      rw [List.length_cons, stepN_succ, h.step_of_data hmode (Ne.symm hquote.1),
        ih hnext hmode hquote.2, holding_ahead_holding_ahead, Nat.add_comm]
      rfl

/-- A string between quotes is pushed, and string mode is off again. -/
theorem stepN_of_literal (h : m.Faces ('\x22' :: (text ++ '\x22' :: rest)))
    (hmode : m.stringMode = false) (hquote : '\x22' ∉ text) (host : σ) :
    stepN (text.length + 2) m host =
      ((m.holding (m.stack.pushChars text)).ahead (text.length + 2), host) := by
  -- The first quote turns string mode on, and so the second one turns it off.
  let inside := { m with stringMode := true }.ahead 1
  let s := m.stack.pushChars text
  have hopening : m.step host = (inside, host) := by
    rw [h.step_of_quote, hmode]
    rfl
  have hinside : inside.Faces (text ++ '\x22' :: rest) :=
    Faces.next ⟨h.running, h.heading, h.written, h.allowed⟩
  have hpushing : stepN text.length inside host = ((inside.holding s).ahead text.length, host) :=
    stepN_of_data hinside rfl hquote host
  have hclosing : ((inside.holding s).ahead text.length).step host =
      ({ (inside.holding s).ahead text.length with stringMode := false }.ahead 1, host) :=
    (hinside.holding s).ahead.step_of_quote host
  have hmachine : { (inside.holding s).ahead text.length with stringMode := false }.ahead 1 =
      (m.holding s).ahead (text.length + 2) := by
    have hback : { m.holding s with stringMode := false } = m.holding s := by rw [← hmode]; rfl
    have htotal : 1 + text.length + 1 = text.length + 2 := by omega
    rw [← htotal, ← ahead_ahead, ← ahead_ahead, ← hback]
    rfl
  have htwo : text.length + 2 = (text.length + 1) + 1 := rfl
  rw [← hmachine, htwo, stepN_succ, hopening, stepN_add, hpushing, stepN_succ, hclosing, stepN_zero]

/-! ### Writing it -/

/-- Commas write what is on the stack, from the top. -/
theorem stepN_of_commas {c : Console} (hopen : c.sink.Open) {s : Stack}
    (h : m.Faces (List.replicate text.length ',' ++ rest)) (hmode : m.stringMode = false)
    (hstack : m.stack = s.pushChars text) :
    stepN text.length m c =
      ((m.holding s).ahead text.length, c.wrote (Utf8.encode text.reverse)) := by
  induction text using List.reverseRecOn generalizing m c with
  | nil =>
      obtain rfl : m.stack = s := hstack
      change (m, c) = (m.ahead 0, c.wrote [])
      rw [ahead_zero, Console.wrote_nil]
  | append_singleton text char ih =>
      rw [Stack.pushChars_concat] at hstack
      rw [List.length_append, List.length_singleton] at h ⊢
      have heffect : Instruction.outputChar.effect m.stack.peek m.generator.next =
          .output .char (CodePoint.value char) := by
        rw [hstack]
        rfl
      have hwrite := Console.write_eq_wrote hopen .char (CodePoint.value char)
      have hbytes : Format.char.bytes (CodePoint.value char) = Utf8.encode [char] := by
        rw [Format.bytes, CodePoint.shown_value]
      have hdrop : m.stack.drop Instruction.outputChar.arity = s.pushChars text := by
        rw [hstack]
        rfl
      have hstep := Faces.step_of_output (i := .outputChar) h hmode heffect hwrite
      rw [hdrop, hbytes] at hstep
      have hnext := (h.holding (s.pushChars text)).next
      rw [stepN_succ, hstep, ih (Console.open_wrote hopen _) hnext hmode rfl,
        holding_ahead_holding_ahead, Nat.add_comm, Console.wrote_wrote, ← Utf8.encode_append,
        List.reverse_concat]
      rfl

/-! ### The whole program -/

theorem newline_not_mem_printing (hfeed : '\n' ∉ text) : '\n' ∉ printing text := by
  simp [printing, hfeed]

theorem length_printing (text : List Char) : (printing text).length = 2 * text.length + 3 := by
  simp only [printing, List.length_cons, List.length_append, List.length_replicate, List.length_nil]
  omega

/-- A machine before the program that prints a text pushes the text, writes it and halts. -/
theorem stepN_of_printing {c : Console} (hopen : c.sink.Open) (h : m.Faces (printing text))
    (hmode : m.stringMode = false) (hquote : '\x22' ∉ text) :
    stepN (2 * text.length + 3) m c =
      ({ m with state := .halted }.ahead (2 * text.length + 3),
        c.wrote (Utf8.encode text.reverse)) := by
  let pushed := (m.holding (m.stack.pushChars text)).ahead (text.length + 2)
  let emptied := (pushed.holding m.stack).ahead text.length
  have hpushing : stepN (text.length + 2) m c = (pushed, c) := stepN_of_literal h hmode hquote c
  have hpushed : pushed.Faces (List.replicate text.length ',' ++ ['@']) := by
    have hsplit : printing text =
        ('\x22' :: text ++ ['\x22']) ++ (List.replicate text.length ',' ++ ['@']) := by
      simp [printing]
    have hlength : ('\x22' :: text ++ ['\x22']).length = text.length + 2 := by
      rw [List.length_append, List.length_cons, List.length_singleton]
    rw [hsplit] at h
    have hahead := (h.holding (m.stack.pushChars text)).ahead
    rwa [hlength] at hahead
  have hwriting : stepN text.length pushed c =
      (emptied, c.wrote (Utf8.encode text.reverse)) :=
    stepN_of_commas hopen hpushed hmode rfl
  have hemptied : emptied.Faces [Instruction.halt.glyph] := by
    have hahead := (hpushed.holding m.stack).ahead
    rwa [List.length_replicate] at hahead
  have hhalting : emptied.step (c.wrote (Utf8.encode text.reverse)) =
      ({ emptied with state := .halted }.ahead 1, c.wrote (Utf8.encode text.reverse)) :=
    hemptied.step_of_halt hmode _
  have hmachine : { emptied with state := .halted }.ahead 1 =
      { m with state := .halted }.ahead (2 * text.length + 3) := by
    have htotal : text.length + 2 + text.length + 1 = 2 * text.length + 3 := by omega
    rw [← htotal, ← ahead_ahead, ← ahead_ahead]
    rfl
  have hcount : 2 * text.length + 3 = text.length + 2 + (text.length + 1) := by omega
  rw [← hmachine, hcount, stepN_add, hpushing, stepN_add, hwriting, stepN_succ, hhalting,
    stepN_zero]

/-- A string literal prints reversed. Whatever the text between the quotes, as long as it is on one
line and holds no quote, the program that pushes and writes it loads. Right after the second quote
the stack is the code points of the text in order, string mode is off and nothing was read or
written. The run executes two cells for each character and three more, and halts with an empty stack
on the playfield it began with; it has written the text backwards and has read nothing. -/
theorem string_literal_prints_reversed (hquote : '\x22' ∉ text) (hfeed : '\n' ∉ text)
    (seed : UInt64) {budget : Option UInt64}
    (hbudget : ∀ limit, budget = some limit → 2 * text.length + 3 ≤ limit.toNat)
    {c : Console} (hopen : c.sink.Open) :
    ∃ f, Playfield.ofSource? (String.ofList (printing text)) = some f ∧
      let pushed := stepN (text.length + 2) (start f seed budget) c
      (pushed.1.state = .running ∧ pushed.1.stringMode = false ∧
        pushed.1.stack.toList = text.map CodePoint.value ∧ pushed.2 = c) ∧
      ∃ call, Completes (start f seed budget) c call ∧ call.answer = .ok () ∧
        call.machine.state = .halted ∧ call.machine.steps = 2 * text.length + 3 ∧
        call.machine.stack = .empty ∧ call.machine.playfield = f ∧
        call.host.unread = c.unread ∧ call.host.pending = c.pending ∧
        call.host.written = c.written ++ Utf8.encode text.reverse := by
  obtain ⟨f, hload, hwritten⟩ :=
    Playfield.exists_ofSource?_of_line (newline_not_mem_printing hfeed) (List.cons_ne_nil _ _)
  rw [← length_printing] at hbudget
  have hfaces : (start f seed budget).Faces (printing text) := .of_start seed hwritten hbudget
  have hpushing := stepN_of_literal hfaces rfl hquote c
  have hprinting := stepN_of_printing hopen hfaces rfl hquote
  refine ⟨f, hload, ?_, ?_⟩
  · rw [hpushing]
    exact ⟨rfl, rfl, Stack.toList_pushChars .empty text, rfl⟩
  · have hcompletes := completes_of_halted (.start f seed budget) hprinting rfl
    exact ⟨_, hcompletes, rfl, rfl, Nat.zero_add _, rfl, rfl, rfl, rfl, Console.written_wrote ..⟩

/-- A text of an instruction, a digit, a blank, a carriage return and a character beyond ASCII. -/
theorem string_literal_prints_reversed_of_glyphs :
    let text := ['@', '7', ' ', '\r', 'é']
    let c : Console := Console.ofInput [55, 10] {}
    ('\x22' ∉ text ∧ '\n' ∉ text ∧ c.sink.Open ∧
      ∀ limit, some (13 : UInt64) = some limit → 2 * text.length + 3 ≤ limit.toNat) ∧
    ∃ f, Playfield.ofSource? (String.ofList (printing text)) = some f ∧
      let pushed := stepN 7 (start f 0 (some 13)) c
      (pushed.1.state = .running ∧ pushed.1.stringMode = false ∧
        pushed.1.stack.toList = text.map CodePoint.value ∧ pushed.2 = c) ∧
      ∃ call, Completes (start f 0 (some 13)) c call ∧ call.answer = .ok () ∧
        call.machine.state = .halted ∧ call.machine.steps = 13 ∧
        call.machine.stack = .empty ∧ call.machine.playfield = f ∧
        call.host.unread = c.unread ∧ call.host.pending = c.pending ∧
        call.host.written = c.written ++ [195, 169, 13, 32, 55, 64] := by
  have hquote : '\x22' ∉ ['@', '7', ' ', '\r', 'é'] := by decide
  have hfeed : '\n' ∉ ['@', '7', ' ', '\r', 'é'] := by decide
  have hbudget : ∀ limit, some (13 : UInt64) = some limit → 2 * 5 + 3 ≤ limit.toNat := by
    rintro _ ⟨⟩
    decide
  have hopen : (Console.ofInput [55, 10] {}).sink.Open := ⟨rfl, rfl⟩
  exact ⟨⟨hquote, hfeed, hopen, hbudget⟩,
    string_literal_prints_reversed hquote hfeed 0 hbudget hopen⟩

end Machine

end Funge
