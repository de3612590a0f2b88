import Funge.Proofs.CanonicalCell
import Funge.Proofs.Completion
import Funge.Proofs.FullSink
import Funge.Proofs.Reloading

/-!
# Along a line

A program on one line that never turns is executed from left to right, one cell for each character.
`Faces` says that a machine stands before a text: the cells from its pointer on are those of the text,
and nothing keeps the machine from executing them. Each lemma about a step then says what one
character does, and that the machine faces the rest of the text afterwards is the same argument for
all of them (`Faces.ahead`).
-/

namespace Funge

/-! ### Characters and cells -/

namespace Cell

@[simp] theorem ofChar_glyph (i : Instruction) : ofChar i.glyph = .instruction i := by
  cases i <;> decide

@[simp] theorem ofChar_digitChar (d : Fin 10) :
    ofChar (Nat.digitChar d) = .digit (UInt8.ofNat d) := by
  revert d
  decide

/-- Only its glyph becomes an instruction. -/
theorem eq_glyph_of_ofChar {c : Char} {i : Instruction} (h : ofChar c = .instruction i) :
    c = i.glyph := by
  apply CodePoint.value_injective
  rw [← value_ofChar, h]
  rfl

end Cell

/-! ### Values on the stack -/

namespace Stack

/-- Put values on top, one after another. -/
def pushAll (s : Stack) (values : List Int64) : Stack := values.foldl push s

theorem pushAll_append (s : Stack) (values more : List Int64) :
    s.pushAll (values ++ more) = (s.pushAll values).pushAll more := List.foldl_append

@[simp] theorem toList_pushAll (s : Stack) (values : List Int64) :
    (s.pushAll values).toList = s.toList ++ values := by
  induction values generalizing s with
  | nil => exact (List.append_nil _).symm
  | cons v values ih =>
      change ((s.push v).pushAll values).toList = _
      rw [ih, toList_push, List.append_assoc]
      rfl

end Stack

/-! ### The playfield of a line -/

/-- A text on one line loads, and its cells are its characters from left to right. -/
theorem Playfield.exists_ofSource?_of_line {text : List Char} (hfeed : '\n' ∉ text)
    (hne : text ≠ []) :
    ∃ f, ofSource? (String.ofList text) = some f ∧
      ∀ (i : Nat) char, text[i]? = some char → f.read ⟨0, i⟩ = .ok (.ofChar char) := by
  have hrows : Lines.rows (String.ofList text).toList = [text] := by
    rw [String.toList_ofList, Lines.rows_of_newline_not_mem hfeed hne]
  have hsource : ofSource? (String.ofList text) = ofRows? ([text].map (List.map Cell.ofChar)) := by
    rw [← hrows]
    rfl
  cases hload : ofRows? ([text].map (List.map Cell.ofChar)) with
  | none =>
      rw [ofRows?_ofChar_eq_none_iff] at hload
      exact absurd (hload text List.mem_cons_self) hne
  | some f =>
      refine ⟨f, hsource.trans hload, fun i char hchar => ?_⟩
      exact (laysOut_of_ofRows? hload).written 0 i text char rfl hchar

/-! ### Output -/

namespace Console

/-- The console after some bytes were written. -/
def wrote (c : Console) (bytes : List UInt8) : Console :=
  c.onto { c.sink with taken := c.sink.taken ++ bytes }

variable {c : Console}

@[simp] theorem written_wrote (c : Console) (bytes : List UInt8) :
    (c.wrote bytes).written = c.written ++ bytes := Array.toList_appendList

@[simp] theorem wrote_nil (c : Console) : c.wrote [] = c := by
  rw [wrote, Array.appendList_nil]
  rfl

theorem wrote_wrote (c : Console) (bytes more : List UInt8) :
    (c.wrote bytes).wrote more = c.wrote (bytes ++ more) := by
  have htaken : c.sink.taken ++ bytes ++ more = c.sink.taken ++ (bytes ++ more) :=
    Array.toList_inj.mp (by simp only [Array.toList_appendList, List.append_assoc])
  rw [wrote, wrote, wrote, ← htaken]
  rfl

theorem open_wrote (h : c.sink.Open) (bytes : List UInt8) : (c.wrote bytes).sink.Open :=
  ⟨h.unlimited, h.passing⟩

theorem write_eq_wrote (h : c.sink.Open) (format : Format) (v : Int64) :
    format.write v c = (.ok (), c.wrote (format.bytes v)) := write_of_open h format v

end Console

namespace Machine

variable {σ : Type} [Host σ] {m : Machine}

/-! ### Where a machine is on its line, and what it holds -/

/-- The machine a number of cells further to the right. -/
def ahead (m : Machine) (n : Nat) : Machine :=
  { m with position := ⟨m.position.row, m.position.col + n⟩, steps := m.steps + n }

/-- The machine with another stack. -/
def holding (m : Machine) (s : Stack) : Machine := { m with stack := s }

@[simp] theorem ahead_zero (m : Machine) : m.ahead 0 = m := by
  rw [ahead, Int.natCast_zero, Int.add_zero, Nat.add_zero]

theorem ahead_ahead (m : Machine) (j k : Nat) : (m.ahead j).ahead k = m.ahead (j + k) := by
  simp only [ahead, Int.natCast_add, Int.add_assoc, Nat.add_assoc]

/-- Of two stretches of a line the second decides what the machine holds after them. -/
theorem holding_ahead_holding_ahead (m : Machine) (s t : Stack) (j k : Nat) :
    (((m.holding s).ahead j).holding t).ahead k = (m.holding t).ahead (j + k) :=
  ahead_ahead (m.holding t) j k

/-- Two stretches of a line, one after the other. -/
theorem stepN_ahead_add {s t : Stack} {j k : Nat} {host mid left : σ}
    (hfirst : stepN j m host = ((m.holding s).ahead j, mid))
    (hsecond : stepN k ((m.holding s).ahead j) mid =
      ((((m.holding s).ahead j).holding t).ahead k, left)) :
    stepN (j + k) m host = ((m.holding t).ahead (j + k), left) := by
  rw [stepN_add, hfirst, hsecond, holding_ahead_holding_ahead]

/-- The machine stands before a text, which its budget allows it to execute. -/
structure Faces (m : Machine) (text : List Char) : Prop where
  running : m.status = .running
  heading : m.direction = .right
  written : ∀ (i : Nat) char, text[i]? = some char →
    m.playfield.read ⟨m.position.row, m.position.col + i⟩ = .ok (.ofChar char)
  allowed : ∀ limit, m.budget = some limit → m.steps + text.length ≤ limit.toNat

namespace Faces

variable {char : Char} {front text : List Char}

/-- A fresh machine stands before its program. -/
theorem of_start {f : Playfield} {budget : Option UInt64} (seed : UInt64)
    (hwritten : ∀ (i : Nat) char, text[i]? = some char → f.read ⟨0, i⟩ = .ok (.ofChar char))
    (hallowed : ∀ limit, budget = some limit → text.length ≤ limit.toNat) :
    (start f seed budget).Faces text where
  running := rfl
  heading := rfl
  written i char hchar := by
    change f.read ⟨0, 0 + i⟩ = _
    rw [Int.zero_add]
    exact hwritten i char hchar
  allowed limit hlimit := by
    change 0 + text.length ≤ _
    rw [Nat.zero_add]
    exact hallowed limit hlimit

/-- A machine that has passed a text faces what is behind it. -/
theorem ahead (h : m.Faces (front ++ text)) : (m.ahead front.length).Faces text where
  running := h.running
  heading := h.heading
  written i char hchar := by
    have hplace : (front ++ text)[front.length + i]? = some char := by
      rw [List.getElem?_append_right (Nat.le_add_right _ _), Nat.add_sub_cancel_left, hchar]
    have hread := h.written (front.length + i) char hplace
    rwa [Int.natCast_add, ← Int.add_assoc] at hread
  allowed limit hlimit := by
    have hroom := h.allowed limit hlimit
    rw [List.length_append, ← Nat.add_assoc] at hroom
    exact hroom

theorem next (h : m.Faces (char :: text)) : (m.ahead 1).Faces text := by
  have hsplit : m.Faces ([char] ++ text) := h
  exact hsplit.ahead

/-- A machine that has passed some characters of a text faces the next one. -/
theorem ahead_getElem {k : Nat} (h : m.Faces text) (hchar : text[k]? = some char) :
    (m.ahead k).Faces (char :: text.drop (k + 1)) := by
  obtain ⟨hk, rfl⟩ := List.getElem?_eq_some_iff.mp hchar
  rw [← List.take_append_drop k text] at h
  have hahead := h.ahead
  rwa [List.length_take_of_le (Nat.le_of_lt hk), List.drop_eq_getElem_cons hk] at hahead

theorem holding (h : m.Faces text) (s : Stack) : (m.holding s).Faces text :=
  ⟨h.running, h.heading, h.written, h.allowed⟩

theorem fetch (h : m.Faces (char :: text)) : m.fetch = .ok (.ofChar char) := by
  refine fetch_of_read_ok ?_ ?_
  · refine Option.eq_none_iff_forall_ne_some.mpr fun limit hlimit => ?_
    obtain ⟨hbudget, hspent⟩ := exhausted?_eq_some_iff.mp hlimit
    have hroom := h.allowed limit hbudget
    rw [List.length_cons] at hroom
    omega
  · have hread := h.written 0 char rfl
    rwa [Int.natCast_zero, Int.add_zero] at hread

end Faces

/-! ### What one character does -/

/-- A machine that heads right and has counted a cell is one cell further, unless it failed. -/
theorem settle_counted (hdirection : m.direction = .right)
    (h : ∀ fault, m.status ≠ .failed fault) :
    settle { m with steps := m.steps + 1 } = m.ahead 1 := by
  have hposition : m.position.next m.direction = ⟨m.position.row, m.position.col + 1⟩ := by
    rw [hdirection]
    rfl
  rw [settle_of_not_failed (m := { m with steps := m.steps + 1 }) h, advance, hposition]
  rfl

namespace Faces

variable {char : Char} {text : List Char}

theorem not_failed (h : m.Faces text) (fault : Fault) : m.status ≠ .failed fault :=
  fun hf => nomatch h.running.symm.trans hf

/-- A character that pushes values puts them in place of its operands. -/
theorem step_of_push (h : m.Faces (char :: text)) {values : List Int64}
    (he : m.effect (.ofChar char) = .push values) (host : σ) :
    let s := m.stack.drop ((Cell.ofChar char).arity m.stringMode)
    m.step host = ((m.holding (s.pushAll values)).ahead 1, host) := by
  intro s
  have hsettle := settle_counted (m := m.holding (s.pushAll values)) h.heading h.not_failed
  rw [step_of_fetch_ok h.running h.fetch, he, ← hsettle]
  rfl

/-- In string mode a character is pushed by its code point. -/
theorem step_of_data (h : m.Faces (char :: text)) (hmode : m.stringMode = true)
    (hquote : char ≠ '\x22') (host : σ) :
    m.step host = ((m.holding (m.stack.push (CodePoint.value char))).ahead 1, host) := by
  have hdata : (Cell.ofChar char).IsData m.stringMode :=
    ⟨hmode, fun hcell => hquote (Cell.eq_glyph_of_ofChar hcell)⟩
  have harity : (Cell.ofChar char).arity m.stringMode = 0 := if_pos hdata
  have heffect : m.effect (.ofChar char) = .push [CodePoint.value char] := by
    rw [← Cell.value_ofChar]
    exact if_pos hdata
  have hstep := h.step_of_push heffect host
  rwa [harity] at hstep

/-- A digit is pushed by its value. -/
theorem step_of_digit {d : Fin 10} (h : m.Faces (Nat.digitChar d :: text))
    (hmode : m.stringMode = false) (host : σ) :
    m.step host = ((m.holding (m.stack.push (Int64.ofNat d))).ahead 1, host) := by
  have hdata : ¬ (Cell.digit (UInt8.ofNat d)).IsData m.stringMode := fun hd =>
    absurd (hmode.symm.trans hd.1) nofun
  have hvalue : (UInt8.ofNat d).toNat = d := UInt8.toNat_ofNat_of_lt' (Nat.lt_trans d.2 (by decide))
  have harity : (Cell.ofChar (Nat.digitChar d)).arity m.stringMode = 0 := by
    rw [Cell.ofChar_digitChar, Cell.arity, if_neg hdata]
  have heffect : m.effect (.ofChar (Nat.digitChar d)) = .push [Int64.ofNat d] := by
    rw [Cell.ofChar_digitChar, effect, Cell.effect, if_neg hdata, hvalue]
  have hstep := h.step_of_push heffect host
  rwa [harity] at hstep

section Instruction

variable {i : Instruction}

theorem carriesOut (h : m.Faces (i.glyph :: text)) (hmode : m.stringMode = false) :
    m.CarriesOut i := by
  refine ⟨hmode, ?_⟩
  rw [due?_of_running h.running, h.fetch, Cell.ofChar_glyph]
  rfl

/-- An instruction that pushes values puts them in place of its operands. -/
theorem step_of_instruction (h : m.Faces (i.glyph :: text)) (hmode : m.stringMode = false)
    {values : List Int64} (he : i.effect m.stack.peek m.generator.next = .push values) (host : σ) :
    m.step host = ((m.holding ((m.stack.drop i.arity).pushAll values)).ahead 1, host) := by
  have harity : (Cell.instruction i).arity m.stringMode = i.arity := by
    rw [Cell.arity, hmode]
    rfl
  rw [← effect_of_carriesOut (h.carriesOut hmode), ← Cell.ofChar_glyph] at he
  have hstep := h.step_of_push he host
  rwa [Cell.ofChar_glyph, harity] at hstep

/-- The instruction that opens and closes string mode. -/
theorem step_of_quote (h : m.Faces (Instruction.stringMode.glyph :: text)) (host : σ) :
    m.step host = ({ m with stringMode := !m.stringMode }.ahead 1, host) := by
  have hdata : ¬ (Cell.instruction .stringMode).IsData m.stringMode := fun h => h.2 rfl
  have heffect : m.effect (.instruction .stringMode) = .toggleStringMode := if_neg hdata
  have harity : (Cell.instruction .stringMode).arity m.stringMode = 0 := if_neg hdata
  have hfetch := h.fetch
  rw [Cell.ofChar_glyph] at hfetch
  have hsettle := settle_counted (m := { m with stringMode := !m.stringMode }) h.heading h.not_failed
  rw [step_of_fetch_ok h.running hfetch, heffect, begin, harity, ← hsettle]
  rfl

/-- An instruction whose output the host takes. -/
theorem step_of_output (h : m.Faces (i.glyph :: text)) (hmode : m.stringMode = false)
    {format : Format} {v : Int64} {left : σ}
    (he : i.effect m.stack.peek m.generator.next = .output format v)
    (hwrite : format.write v host = (.ok (), left)) :
    m.step host = ((m.holding (m.stack.drop i.arity)).ahead 1, left) := by
  have hsettle := settle_counted (m := m.holding (m.stack.drop i.arity)) h.heading h.not_failed
  have hcarries := h.carriesOut hmode
  rw [step_of_carriesOut hcarries, begin_of_carriesOut hcarries, he, apply, deliver_eq, hwrite,
    ← hsettle]
  rfl

/-- A division by zero, which takes its operands off the stack. -/
theorem step_of_divideByZero (h : m.Faces (i.glyph :: text)) (hmode : m.stringMode = false)
    (he : i.effect m.stack.peek m.generator.next = .divideByZero) (host : σ) :
    m.step host =
      ((m.holding (m.stack.drop i.arity)).count.failHere .divisionByZero, host) := by
  have hcarries := h.carriesOut hmode
  rw [step_of_carriesOut hcarries, begin_of_carriesOut hcarries, he, apply,
    settle_of_failed (status_failHere ..)]
  rfl

/-- The instruction to halt. -/
theorem step_of_halt (h : m.Faces (Instruction.halt.glyph :: text)) (hmode : m.stringMode = false)
    (host : σ) : m.step host = ({ m with state := .halted }.ahead 1, host) := by
  have hsettle := settle_counted (m := { m with state := .halted }) h.heading
    (by simp [status_halted h.running])
  have hcarries := h.carriesOut hmode
  rw [step_of_carriesOut hcarries, begin_of_carriesOut hcarries, ← hsettle]
  rfl

end Instruction

end Faces

end Machine

end Funge
