import Funge.Proofs.FullSink
import Funge.Proofs.Reading

/-!
# Input that is longer at its end

A console takes its input line by line, so what follows the line it takes has no part in the answer.
`Console.followedBy` is a console with more bytes behind its unread ones. If no line was cut short
there, every call of it answers as before, and the bytes stay behind the unread ones
(`read_followedBy`). Only a console that has come to the end of its input answers differently. So a
run that does not ask for more than there is does not notice that there is more.
-/

namespace Funge

/-! ### A text with more behind it -/

namespace FirstLine

variable {α : Type} {mark : α} {text line rest : List α}

/-- A line that has its mark ends there, whatever comes behind the text. -/
theorem append (h : FirstLine mark text line rest) (hmark : mark ∈ line) (more : List α) :
    FirstLine mark (text ++ more) line (rest ++ more) where
  split := by rw [h.split, List.append_assoc]
  inside := h.inside
  last hmem := absurd hmark hmem

/-- In a text that ends with the mark, no line lacks it, and the rest ends with it, too. -/
theorem mem_of_getLast? (h : FirstLine mark text line rest) (hlast : text.getLast? = some mark) :
    mark ∈ line ∧ (rest = [] ∨ rest.getLast? = some mark) := by
  rw [h.split, List.getLast?_append] at hlast
  cases hrest : rest.getLast? with
  | none =>
      rw [hrest, Option.none_or] at hlast
      exact ⟨List.mem_of_getLast? hlast, .inl (List.getLast?_eq_none_iff.mp hrest)⟩
  | some last =>
      rw [hrest, Option.some_or] at hlast
      refine ⟨?_, .inr hlast⟩
      by_cases hmem : mark ∈ line
      · exact hmem
      · rw [h.last hmem] at hrest
        cases hrest

end FirstLine

namespace Console

/-- The console with more bytes behind its unread ones. -/
def followedBy (c : Console) (more : List UInt8) : Console := { c with unread := c.unread ++ more }

/-- The unread bytes are whole lines. -/
def EndsLine (c : Console) : Prop := c.unread = [] ∨ c.unread.getLast? = some 10

variable {c : Console} {format : Format}

/-! ### One call -/

/-- A request for the next line supplies the same line, if there is one. -/
theorem nextLine_followedBy (h : c.EndsLine) (hmore : c.nextLine.1 ≠ .error .endOfInput)
    (more : List UInt8) :
    (c.followedBy more).nextLine = (c.nextLine.1, c.nextLine.2.followedBy more) ∧
      c.nextLine.2.EndsLine := by
  obtain hnil | hlast := h
  · rw [nextLine_of_nil hnil] at hmore
    exact absurd rfl hmore
  · obtain ⟨line, rest, hfirst⟩ := FirstLine.exists_firstLine 10 c.unread
    obtain ⟨hmark, hrest⟩ := hfirst.mem_of_getLast? hlast
    have hne : line ≠ [] := List.ne_nil_of_mem hmark
    have hnext := nextLine_of_firstLine hfirst hne
    have hlonger := nextLine_of_firstLine (c := c.followedBy more) (hfirst.append hmark more) hne
    rw [hnext, hlonger]
    cases Utf8.decode? line with
    | none => exact ⟨rfl, hrest⟩
    | some text => exact ⟨rfl, hrest⟩

theorem readChar_followedBy (h : c.EndsLine) (hmore : c.readChar.1 ≠ .error .endOfInput)
    (more : List UInt8) :
    (c.followedBy more).readChar = (c.readChar.1, c.readChar.2.followedBy more) ∧
      c.readChar.2.EndsLine := by
  have hpending : (c.followedBy more).pending = c.pending := rfl
  unfold readChar at hmore ⊢
  rw [hpending]
  cases hp : c.pending with
  | cons char pending => exact ⟨rfl, h⟩
  | nil =>
      rw [hp] at hmore
      have hline : c.nextLine.1 ≠ .error .endOfInput := by
        intro hend
        rcases hnext : c.nextLine with ⟨text, after⟩
        rw [hnext] at hend hmore
        obtain rfl : text = .error .endOfInput := hend
        exact hmore rfl
      obtain ⟨hnext, hends⟩ := nextLine_followedBy h hline more
      simp only [hnext]
      rcases hc : c.nextLine with ⟨_ | _ | ⟨char, pending⟩, after⟩
      all_goals
        rw [hc] at hends
        exact ⟨rfl, hends⟩

theorem readInteger_followedBy (h : c.EndsLine) (hmore : c.readInteger.1 ≠ .error .endOfInput)
    (more : List UInt8) :
    (c.followedBy more).readInteger = (c.readInteger.1, c.readInteger.2.followedBy more) ∧
      c.readInteger.2.EndsLine := by
  unfold readInteger at hmore ⊢
  by_cases hblank : Blank.trim c.pending = []
  · rw [if_pos hblank] at hmore ⊢
    have hline : (nextLine { c with pending := [] }).1 ≠ .error .endOfInput := by
      intro hend
      refine hmore ?_
      simp only [hend]
      rfl
    obtain ⟨hnext, hends⟩ := nextLine_followedBy (c := { c with pending := [] }) h hline more
    refine ⟨(if_pos hblank).trans ?_, hends⟩
    rw [show ({ c.followedBy more with pending := [] } : Console).nextLine = _ from hnext]
  · rw [if_neg hblank] at hmore ⊢
    exact ⟨if_neg hblank, h⟩

/-- A call that finds what it asks for, or finds something wrong with it, answers the same if there is
more behind the unread lines. -/
theorem read_followedBy (h : c.EndsLine) (hmore : (format.read c).1 ≠ .error .endOfInput)
    (more : List UInt8) :
    format.read (c.followedBy more) = ((format.read c).1, (format.read c).2.followedBy more) ∧
      (format.read c).2.EndsLine := by
  cases format with
  | integer => exact readInteger_followedBy h hmore more
  | char => exact readChar_followedBy h hmore more

/-- Writing has nothing to do with the unread bytes. -/
theorem write_followedBy (format : Format) (v : Int64) (c : Console) (more : List UInt8) :
    format.write v (c.followedBy more) =
      ((format.write v c).1, (format.write v c).2.followedBy more) := by
  rw [write_eq, write_eq]
  rfl

theorem EndsLine.write (h : c.EndsLine) (format : Format) (v : Int64) :
    (format.write v c).2.EndsLine := by
  rw [write_eq]
  exact h

end Console

namespace Machine

open Console (ofInput)

variable {m : Machine} {c : Console}

/-! ### Steps and runs -/

/-- An effect that does not fail for want of input is the same if there is more input. -/
theorem apply_followedBy (h : c.EndsLine) {e : Effect}
    (hmore : ∀ p, (m.apply c e).1.status ≠ .failed ((Cause.input .endOfInput).faultAt p))
    (more : List UInt8) :
    m.apply (c.followedBy more) e = ((m.apply c e).1, (m.apply c e).2.followedBy more) ∧
      (m.apply c e).2.EndsLine := by
  cases e with
  | input format =>
      simp only [apply, receive_eq] at hmore ⊢
      have hanswer : (format.read c).1 ≠ .error .endOfInput := by
        intro hend
        rw [hend] at hmore
        exact hmore m.position rfl
      obtain ⟨hread, hends⟩ := Console.read_followedBy h hanswer more
      rw [hread]
      exact ⟨rfl, hends⟩
  | output format v =>
      have happly : ∀ host : Console,
          m.apply host (.output format v) = m.deliver host (format.write v) := fun _ => rfl
      rw [happly, happly, deliver_eq, deliver_eq, Console.write_followedBy]
      exact ⟨rfl, h.write format v⟩
  | _ => exact ⟨rfl, h⟩

theorem step_followedBy (h : c.EndsLine)
    (hmore : ∀ p, (m.step c).1.status ≠ .failed ((Cause.input .endOfInput).faultAt p))
    (more : List UInt8) :
    m.step (c.followedBy more) = ((m.step c).1, (m.step c).2.followedBy more) ∧
      (m.step c).2.EndsLine := by
  obtain ⟨hrun, -, hs⟩ | ⟨hrun, -, cause, hf, hs⟩ | ⟨hrun, cell, -, hf, hs⟩ := m.step_cases c
  · rw [hs, step_of_not_running hrun]
    exact ⟨rfl, h⟩
  · rw [hs, step_of_fetch_error hrun hf]
    exact ⟨rfl, h⟩
  · rw [hs] at hmore ⊢
    obtain ⟨happly, hends⟩ := apply_followedBy (m := m.begin cell) h hmore more
    rw [step_of_fetch_ok hrun hf, happly]
    exact ⟨rfl, hends⟩

theorem stepN_followedBy (h : c.EndsLine) {k : Nat}
    (hmore : ∀ p, .error ((Cause.input .endOfInput).faultAt p) ∉ answers k m c)
    (more : List UInt8) :
    answers k m (c.followedBy more) = answers k m c ∧
      stepN k m (c.followedBy more) = ((stepN k m c).1, (stepN k m c).2.followedBy more) := by
  induction k generalizing m c with
  | zero => exact ⟨rfl, rfl⟩
  | succ k ih =>
      obtain ⟨hs, hends⟩ := step_followedBy h (m := m)
        (fun p hp => hmore p (by simp [answers_succ, answer_of_failed hp])) more
      obtain ⟨hanswers, hrun⟩ := ih hends (m := (m.step c).1)
        fun p hp => hmore p (by simp [answers_succ, hp])
      rw [answers_succ, answers_succ, stepN_succ, stepN_succ, hs, hanswers, hrun]
      exact ⟨rfl, rfl⟩

/-- Input that is not read has no influence on a run. Let the input be empty or end with a line feed,
and let none of some steps fail for want of it. If the input goes on behind, these steps give the same
answers, lead to the same machine, write the same and leave the same rest of the current line, and the
unread bytes are those that were left and then all that was added. -/
theorem stepN_of_longer_input (m : Machine) (sink : Sink) {input : List UInt8}
    (hlines : input = [] ∨ input.getLast? = some 10) {k : Nat}
    (hmore : ∀ p, .error ((Cause.input .endOfInput).faultAt p) ∉ answers k m (ofInput input sink))
    (more : List UInt8) :
    let short := stepN k m (ofInput input sink)
    let long := stepN k m (ofInput (input ++ more) sink)
    answers k m (ofInput (input ++ more) sink) = answers k m (ofInput input sink) ∧
      long.1 = short.1 ∧ long.2.written = short.2.written ∧ long.2.pending = short.2.pending ∧
      long.2.unread = short.2.unread ++ more := by
  intro short long
  have hends : (ofInput input sink).EndsLine := hlines
  obtain ⟨hanswers, hrun⟩ := stepN_followedBy hends hmore more
  have hlong : long = (short.1, short.2.followedBy more) := hrun
  refine ⟨hanswers, ?_⟩
  rw [hlong]
  exact ⟨rfl, rfl, rfl, rfl⟩

/-- A program reads a character and then the number behind it, and leaves the next line unread. -/
theorem stepN_of_longer_input_of_number :
    let f : Playfield := ⟨1, 4, #[.instruction .inputChar, .instruction .inputInteger,
      .instruction .outputInteger, .instruction .halt], by decide, by decide, rfl⟩
    let m := start f 0 none
    let input := Utf8.encode ['a', ' ', '7', '\n']
    let long := stepN 4 m (ofInput (input ++ [56, 10]) {})
    input.getLast? = some 10 ∧ (stepN 4 m (ofInput input {})).1.state = .halted ∧
      answers 4 m (ofInput (input ++ [56, 10]) {}) = answers 4 m (ofInput input {}) ∧
      long.2.written = [55, 32] ∧ long.2.unread = [56, 10] := by
  intro f m input long
  have hanswers : answers 4 m (ofInput input {}) =
      List.replicate 3 (.ok .running) ++ [.ok .halted] := by decide
  have hmore : ∀ p,
      .error ((Cause.input .endOfInput).faultAt p) ∉ answers 4 m (ofInput input {}) := by
    intro p hp
    simp [hanswers] at hp
  have hwritten : (stepN 4 m (ofInput input {})).2.written = [55, 32] := by decide
  have hunread : (stepN 4 m (ofInput input {})).2.unread = [] := by decide
  have hlines : input.getLast? = some 10 := by decide
  obtain ⟨hsame, -, hwrite, -, hrest⟩ := stepN_of_longer_input m {} (.inr hlines) hmore [56, 10]
  refine ⟨hlines, by decide, hsame, hwrite.trans hwritten, ?_⟩
  rw [hunread] at hrest
  exact hrest

end Machine

end Funge
