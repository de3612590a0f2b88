import Mathlib.Data.Finset.Card
import Mathlib.Data.Finset.Prod
import Funge.Proofs.Budget
import Funge.Proofs.Ending
import Funge.Proofs.FullSink
import Funge.Proofs.Loading
import Funge.Proofs.Reading

/-!
# What a run can use up

Each cell that is executed can use up no more than a fixed amount of anything: it makes the stack one
value deeper, alters one cell, takes one line of the input, and writes one numeral with its space,
which is 21 bytes at most. Only on a stack with too few operands does a cell add two values, and it
leaves no more than these two there. `CoveredBy` says of a run that so many cells account for all it
has used. One step keeps it when the count of cells is the machine's own (`CoveredBy.step`), and a
step that executes no cell uses nothing. So a step budget bounds everything else as well.
-/

namespace Funge

/-! ### Sizes -/

namespace Stack

@[simp] theorem depth_drop (s : Stack) (n : Nat) : (s.drop n).depth = s.depth - n := by
  induction n generalizing s with
  | zero => rfl
  | succ n ih =>
      rw [drop_succ, ih, depth_rest]
      omega

theorem depth_foldl_push (s : Stack) (values : List Int64) :
    (values.foldl push s).depth = s.depth + values.length := by
  induction values generalizing s with
  | nil => rfl
  | cons v values ih =>
      rw [List.foldl_cons, ih, depth_push, List.length_cons]
      omega

end Stack

namespace Utf8

theorem length_encode_singleton (c : Char) : (encode [c]).length = c.utf8Size := by
  rw [encode_cons, encode_nil, List.append_nil, String.length_utf8EncodeChar]

/-- Digits, signs and spaces are one byte each. -/
theorem length_encode_of_ascii {cs : List Char} (h : ∀ c ∈ cs, c.toNat < 128) :
    (encode cs).length = cs.length := by
  induction cs with
  | nil => rfl
  | cons c cs ih =>
      have hone : c.utf8Size = 1 := by
        have hc : c.toNat < 128 := h c List.mem_cons_self
        rw [Char.utf8Size_eq_one_iff, UInt32.le_iff_toNat_le]
        exact Nat.le_of_lt_succ hc
      rw [encode_cons, List.length_append, String.length_utf8EncodeChar, hone,
        ih fun d hd => h d (List.mem_cons_of_mem c hd), List.length_cons]
      omega

end Utf8

namespace Decimal

theorem toNat_lt_of_mem_print {i : Int} {c : Char} (h : c ∈ print i) : c.toNat < 128 := by
  rcases mem_print h with rfl | hdigit
  · decide
  · have hle := CodePoint.toNat_of_isDigit hdigit
    omega

/-- The longest numeral of a machine value is that of the least one, with its sign. -/
theorem length_print_le (v : Int64) : (print v.toInt).length ≤ 20 := by
  have hmin := v.le_toInt
  have hmax := v.toInt_lt
  have hdigits : (Nat.toDigits 10 v.toInt.natAbs).length ≤ 19 := by
    rw [Nat.length_toDigits_le_iff (by decide) (by decide)]
    omega
  unfold print
  split
  · exact Nat.succ_le_succ hdigits
  · exact Nat.le_succ_of_le hdigits

end Decimal

/-- No value is written with more bytes than the least number and its space. -/
theorem Format.length_bytes_le (format : Format) (v : Int64) : (format.bytes v).length ≤ 21 := by
  cases format with
  | integer =>
      have hascii : ∀ c ∈ Decimal.print v.toInt ++ [' '], c.toNat < 128 := by
        intro c hc
        rcases List.mem_append.mp hc with hc | hc
        · exact Decimal.toNat_lt_of_mem_print hc
        · obtain rfl := List.mem_singleton.mp hc
          decide
      change (Utf8.encode (Decimal.print v.toInt ++ [' '])).length ≤ 21
      rw [Utf8.length_encode_of_ascii hascii, List.length_append]
      exact Nat.succ_le_succ (Decimal.length_print_le v)
  | char =>
      have hfour := (CodePoint.shown v).utf8Size_le_four
      change (Utf8.encode [CodePoint.shown v]).length ≤ 21
      rw [Utf8.length_encode_singleton]
      omega

/-! ### Altered cells -/

namespace Playfield

variable {f g g' : Playfield} {p : Position} {cell : Cell}

/-- The positions of a playfield at which another one holds another cell. -/
def altered (f g : Playfield) : Finset Position :=
  ((Finset.range f.height ×ˢ Finset.range f.width).image fun p => ⟨p.1, p.2⟩).filter
    fun p => g.read p ≠ f.read p

theorem mem_altered : p ∈ f.altered g ↔ f.Contains p ∧ g.read p ≠ f.read p := by
  rw [altered, Finset.mem_filter, and_congr_left_iff]
  intro _
  constructor
  · intro hp
    obtain ⟨⟨r, c⟩, hrc, rfl⟩ := Finset.mem_image.mp hp
    obtain ⟨hr, hc⟩ := Finset.mem_product.mp hrc
    exact contains_natCast.mpr ⟨Finset.mem_range.mp hr, Finset.mem_range.mp hc⟩
  · intro hp
    obtain ⟨r, c, hr, hc, rfl⟩ := exists_natCast hp
    refine Finset.mem_image.mpr ⟨⟨r, c⟩, ?_, rfl⟩
    exact Finset.mem_product.mpr ⟨Finset.mem_range.mpr hr, Finset.mem_range.mpr hc⟩

@[simp] theorem altered_self (f : Playfield) : f.altered f = ∅ := by
  refine Finset.eq_empty_of_forall_notMem fun p hp => ?_
  exact (mem_altered.mp hp).2 rfl

/-- A write alters no cell but its own. -/
theorem altered_write_subset (h : g.write p cell = .ok g') :
    f.altered g' ⊆ insert p (f.altered g) := by
  intro q hq
  obtain ⟨hinside, hne⟩ := mem_altered.mp hq
  by_cases hqp : q = p
  · exact Finset.mem_insert.mpr (.inl hqp)
  · rw [read_write_of_ne h hqp] at hne
    exact Finset.mem_insert_of_mem (mem_altered.mpr ⟨hinside, hne⟩)

end Playfield

/-! ### Values on the stack -/

/-- How many values an effect can add to the stack. -/
def Effect.pushes : Effect → Nat
  | push values => values.length
  | load _ | input _ => 1
  | turn _ | turnRandomly _ | toggleStringMode | skip | halt | divideByZero | store _ _
  | output _ _ => 0

/-- No instruction adds more than two values, nor more than one besides those it takes. -/
theorem Instruction.pushes_effect_le (i : Instruction) (operand : Nat → Int64)
    (drawn : Direction × Generator) :
    (i.effect operand drawn).pushes ≤ 2 ∧ (i.effect operand drawn).pushes ≤ i.arity + 1 := by
  cases i
  case divide | modulo =>
    by_cases hz : operand 0 = 0
    all_goals simp [effect, hz, Effect.pushes, arity]
  all_goals simp [effect, Effect.pushes, arity]

theorem Cell.pushes_effect_le (stringMode : Bool) (operand : Nat → Int64)
    (drawn : Direction × Generator) (cell : Cell) :
    (cell.effect stringMode operand drawn).pushes ≤ 2 ∧
      (cell.effect stringMode operand drawn).pushes ≤ cell.arity stringMode + 1 := by
  unfold effect arity
  split
  · simp [Effect.pushes]
  · cases cell with
    | instruction i => exact i.pushes_effect_le operand drawn
    | digit d => simp [Effect.pushes]
    | other v => simp [Effect.pushes]
    | blank => simp [Effect.pushes]

namespace Machine

section Depth

variable {σ : Type} [Host σ]

theorem depth_apply_le (m : Machine) (host : σ) (e : Effect) :
    (m.apply host e).1.stack.depth ≤ m.stack.depth + e.pushes := by
  cases e with
  | push values => exact Nat.le_of_eq (m.stack.depth_foldl_push values)
  | store p v =>
      simp only [apply, store]
      cases m.playfield.write p (Cell.ofValue v) <;> exact Nat.le_refl _
  | load p =>
      simp only [apply, load]
      cases m.playfield.read p with
      | ok cell => exact Nat.le_refl _
      | error access => exact Nat.le_succ _
  | input format =>
      simp only [apply, receive_eq]
      cases (format.read host).1 with
      | ok v => exact Nat.le_refl _
      | error fault => exact Nat.le_succ _
  | output format v =>
      simp only [apply, deliver_eq]
      cases (format.write v host).1 <;> exact Nat.le_refl _
  | _ => exact Nat.le_refl _

/-- A step leaves at most one value more on the stack, or two on a stack that had too few. -/
theorem depth_step_le (m : Machine) (host : σ) :
    (m.step host).1.stack.depth ≤ max (m.stack.depth + 1) 2 := by
  obtain ⟨-, -, hs⟩ | ⟨-, -, cause, -, hs⟩ | ⟨-, cell, -, -, hs⟩ := m.step_cases host
  · rw [hs]
    change m.stack.depth ≤ _
    omega
  · rw [hs]
    change m.stack.depth ≤ _
    omega
  · obtain ⟨htwo, hone⟩ := cell.pushes_effect_le m.stringMode m.stack.peek m.generator.next
    have happly := depth_apply_le (m.begin cell) host (m.effect cell)
    have hdrop : (m.begin cell).stack.depth = m.stack.depth - cell.arity m.stringMode :=
      m.stack.depth_drop _
    rw [hs]
    change ((m.begin cell).apply host (m.effect cell)).1.stack.depth ≤ _
    rw [hdrop] at happly
    change (m.effect cell).pushes ≤ 2 at htwo
    change (m.effect cell).pushes ≤ cell.arity m.stringMode + 1 at hone
    omega

/-- A step alters at most one cell. -/
theorem card_altered_step_le (f : Playfield) (m : Machine) (host : σ) :
    (f.altered (m.step host).1.playfield).card ≤ (f.altered m.playfield).card + 1 := by
  refine step_playfield (P := fun g => (f.altered g).card ≤ (f.altered m.playfield).card + 1)
    (Nat.le_succ _) ?_ host
  intro p v g hw
  exact (Finset.card_le_card (Playfield.altered_write_subset hw)).trans (Finset.card_insert_le _ _)

end Depth

end Machine

/-! ### Output and input -/

/-- A sink takes the first bytes of what is written, whether the write fails or not. -/
theorem Sink.taken_write (sink : Sink) (bytes : List UInt8) :
    (sink.write bytes).2.taken = sink.taken ++ bytes.take (sink.room bytes.length) := by
  by_cases hfull : sink.room bytes.length < bytes.length
  · rw [write_of_overflows hfull]
  · simp only [write, if_neg hfull]
    split <;> rfl

namespace Console

variable {c after : Console} {format : Format} {bytes line rest : List UInt8}

/-- A host call writes one value, or nothing. -/
theorem exists_written_after (call : HostCall) (c : Console) :
    ∃ bytes, (call.after c).written = c.written ++ bytes ∧ bytes.length ≤ 21 := by
  cases call with
  | read format =>
      refine ⟨[], ?_, Nat.zero_le _⟩
      rw [HostCall.after, written, sink_read, List.append_nil]
      rfl
  | write format v =>
      refine ⟨(format.bytes v).take (c.sink.room (format.bytes v).length), ?_, ?_⟩
      · rw [HostCall.after, write_eq]
        change (c.sink.write (format.bytes v)).2.taken.toList = _
        rw [Sink.taken_write, Array.toList_appendList]
        rfl
      · exact (List.length_take_le' _ _).trans (format.length_bytes_le v)

/-- A request for the next line takes one line, or none at the end of the input. -/
theorem Supplies.exists_taken {unread : List UInt8} {text : Except InputFault (List Char)}
    (h : Supplies unread line text rest) :
    ∃ lines, Lines.pieces 10 unread = lines ++ Lines.pieces 10 rest ∧ lines.length ≤ 1 := by
  cases h with
  | text hfirst hne =>
      exact ⟨[_], hfirst.pieces_eq (Utf8.encode_ne_nil hne), Nat.le_refl _⟩
  | malformed hfirst hno =>
      exact ⟨[_], hfirst.pieces_eq (hno []), Nat.le_refl _⟩
  | nothing hnil => exact ⟨[], by rw [hnil]; rfl, Nat.zero_le _⟩

theorem Reads.exists_taken {answer : Except InputFault Int64}
    (h : Reads c format bytes answer after) :
    ∃ lines, Lines.pieces 10 c.unread = lines ++ Lines.pieces 10 after.unread ∧
      lines.length ≤ 1 := by
  cases h with
  | char => exact ⟨[], rfl, Nat.zero_le _⟩
  | charOfNext _ hsupply => exact hsupply.exists_taken
  | noChar _ hsupply => exact hsupply.exists_taken
  | integer => exact ⟨[], rfl, Nat.zero_le _⟩
  | integerOfNext _ hsupply => exact hsupply.exists_taken
  | noInteger _ hsupply => exact hsupply.exists_taken

/-- A host call takes one line of the input, or none. -/
theorem exists_lines_after (call : HostCall) (c : Console) :
    ∃ lines, Lines.pieces 10 c.unread = lines ++ Lines.pieces 10 (call.after c).unread ∧
      lines.length ≤ 1 := by
  cases call with
  | read format => exact (reads_taken c format).exists_taken
  | write format v =>
      refine ⟨[], ?_, Nat.zero_le _⟩
      rw [HostCall.after, write_eq]
      rfl

end Console

/-! ### Runs -/

namespace Machine

/-- What is used when a machine has come from a playfield to where it is, and its console from one
state to another, is accounted for by a number of cells. -/
structure CoveredBy (cells : Nat) (f : Playfield) (before : Console) (m : Machine)
    (after : Console) : Prop where
  depth : m.stack.depth ≤ cells + 1
  written : ∃ bytes, after.written = before.written ++ bytes ∧ bytes.length ≤ 21 * cells
  altered : (f.altered m.playfield).card ≤ cells
  lines : ∃ lines, Lines.pieces 10 before.unread = lines ++ Lines.pieces 10 after.unread ∧
    lines.length ≤ cells

namespace CoveredBy

variable {cells : Nat} {f : Playfield} {before after : Console} {m : Machine}

theorem start (f : Playfield) (seed : UInt64) (budget : Option UInt64) (c : Console) :
    CoveredBy 0 f c (Machine.start f seed budget) c where
  depth := Nat.zero_le _
  written := ⟨[], (List.append_nil _).symm, Nat.le_refl 0⟩
  altered := by
    change (f.altered f).card ≤ 0
    rw [Playfield.altered_self, Finset.card_empty]
  lines := ⟨[], rfl, Nat.le_refl 0⟩

theorem mono (h : CoveredBy cells f before m after) {more : Nat} (hle : cells ≤ more) :
    CoveredBy more f before m after := by
  obtain ⟨bytes, hbytes, hlength⟩ := h.written
  obtain ⟨lines, hlines, hcount⟩ := h.lines
  refine ⟨?_, ⟨bytes, hbytes, ?_⟩, h.altered.trans hle, ⟨lines, hlines, hcount.trans hle⟩⟩
  · exact h.depth.trans (Nat.succ_le_succ hle)
  · exact hlength.trans (Nat.mul_le_mul_left 21 hle)

/-- A step is accounted for by one cell more. -/
theorem step_succ (h : CoveredBy cells f before m after) :
    CoveredBy (cells + 1) f before (m.step after).1 (m.step after).2 where
  depth := by
    have hbefore := h.depth
    have hstep := m.depth_step_le after
    omega
  altered := (card_altered_step_le f m after).trans (Nat.succ_le_succ h.altered)
  written := by
    obtain ⟨bytes, hbytes, hlength⟩ := h.written
    rw [step_host]
    cases m.hostCall? with
    | none => exact ⟨bytes, hbytes, by omega⟩
    | some call =>
        obtain ⟨more, hmore, hbound⟩ := Console.exists_written_after call after
        refine ⟨bytes ++ more, ?_, ?_⟩
        · rw [← List.append_assoc, ← hbytes]
          exact hmore
        · rw [List.length_append]
          omega
  lines := by
    obtain ⟨lines, hlines, hlength⟩ := h.lines
    rw [step_host]
    cases m.hostCall? with
    | none => exact ⟨lines, hlines, by omega⟩
    | some call =>
        obtain ⟨more, hmore, hbound⟩ := Console.exists_lines_after call after
        refine ⟨lines ++ more, ?_, ?_⟩
        · rw [List.append_assoc, hlines, hmore]
          rfl
        · rw [List.length_append]
          omega

/-- A step is accounted for by the cell it executes, if it executes one. -/
theorem step (h : CoveredBy m.steps f before m after) :
    CoveredBy (m.step after).1.steps f before (m.step after).1 (m.step after).2 := by
  cases hdue : m.due? with
  | none =>
      obtain ⟨state, error, hs⟩ := step_of_due_none hdue after
      rw [hs]
      exact ⟨h.depth, h.written, h.altered, h.lines⟩
  | some cell =>
      rw [step_steps_of_due hdue]
      exact h.step_succ

end CoveredBy

/-- The count of cells bounds everything a program can use up. Whatever a program does, and however
its machine was driven, the cells executed so far account for the depth of the stack, the bytes
written, the cells altered and the lines taken from the input. So a step budget bounds each of them
all the time. -/
theorem resources_covered_by_steps {f : Playfield} {seed : UInt64} {budget : Option UInt64}
    {m : Machine} {before after : Console} (h : Reachable (start f seed budget) before m after) :
    CoveredBy m.steps f before m after ∧
      ∀ limit, budget = some limit → CoveredBy limit.toNat f before m after := by
  have hcovered : CoveredBy m.steps f before m after :=
    h.invariantWithHost (P := fun m c => CoveredBy m.steps f before m c)
      (.start f seed budget before) fun _ _ hm => hm.step
  refine ⟨hcovered, ?_⟩
  intro limit hlimit
  exact hcovered.mono (h.accounted.withinBudget limit (h.budget_eq.trans hlimit))

/-- A program doubles a value that is not there, writes, reads a line and stores. The first cell
leaves two values on the stack, which is all that one cell accounts for. -/
theorem resources_covered_by_steps_of_underflow :
    let f : Playfield := ⟨1, 7, #[.instruction .duplicate, .instruction .outputInteger,
      .instruction .inputInteger, .digit 0, .digit 0, .instruction .put, .instruction .halt],
      by decide, by decide, rfl⟩
    let first := start f 0 (some 6)
    let before := Console.ofInput (Utf8.encode ['7', '\n']) {}
    let m := (stepN 7 first before).1
    let after := (stepN 7 first before).2
    Reachable first before m after ∧ m.steps = 6 ∧ after.written = [48, 32] ∧
      after.unread = [] ∧ m.playfield.read .origin = .ok (.other 7) ∧
      CoveredBy 6 f before m after ∧
      (stepN 1 first before).1.steps = 1 ∧ (stepN 1 first before).1.stack.depth = 2 := by
  intro f first before m after
  have hreach : Reachable first before m after := .of_stepN 7 first before
  obtain ⟨-, hlimit⟩ := resources_covered_by_steps hreach
  refine ⟨hreach, by decide, by decide, by decide, by decide, ?_, by decide, by decide⟩
  exact hlimit 6 rfl

end Machine

end Funge
