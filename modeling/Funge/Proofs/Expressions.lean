import Funge.Proofs.StraightLine

/-!
# Expressions

An expression with each operator behind its operands is a program: it leaves the value of the
expression on the stack. `schedule` lists the nodes of an expression in the order in which the program
computes them, each with the values that wait on the stack meanwhile, and the two lemmas about runs
follow the tree. Up to the first division by zero the machine reaches each node with what waits and the
operands of the node on its stack (`stepN_of_node`); if there is none, the expression is replaced by
its value (`stepN_of_expression`).
-/

namespace Funge

/-! ### Operators -/

/-- The operators with two operands. -/
inductive Operator where
  | add
  | subtract
  | multiply
  | divide
  | modulo
  | greater
deriving DecidableEq, Repr

namespace Operator

/-- The instruction that carries an operator out. -/
def instruction : Operator → Instruction
  | add => .add
  | subtract => .subtract
  | multiply => .multiply
  | divide => .divide
  | modulo => .modulo
  | greater => .greater

/-- The value of an operator. It is computed with integers and wrapped to 64 bits; a quotient is
rounded toward zero. A quotient by zero counts as zero here, and a remainder as the dividend, which
no program gets to see. -/
def apply (op : Operator) (left right : Int64) : Int64 :=
  match op with
  | add => .ofInt (left.toInt + right.toInt)
  | subtract => .ofInt (left.toInt - right.toInt)
  | multiply => .ofInt (left.toInt * right.toInt)
  | divide => .ofInt (left.toInt.tdiv right.toInt)
  | modulo => .ofInt (left.toInt.tmod right.toInt)
  | greater => if right.toInt < left.toInt then 1 else 0

/-- The operators that cannot have zero on their right. -/
def Divides (op : Operator) : Prop := op = divide ∨ op = modulo

instance (op : Operator) : Decidable op.Divides := inferInstanceAs (Decidable (_ ∨ _))

theorem apply_divide (left right : Int64) : divide.apply left right = left / right := by
  apply Int64.toInt_inj.mp
  rw [Int64.toInt_div]
  exact Int64.toInt_ofInt

theorem apply_modulo (left right : Int64) : modulo.apply left right = left % right := by
  rw [← Int64.ofInt_toInt (left % right), Int64.toInt_mod]
  rfl

theorem apply_greater (left right : Int64) :
    greater.apply left right = Machine.truth (left > right) := by
  simp only [apply, Machine.truth, gt_iff_lt, Int64.lt_iff_toInt_lt]

/-- The effect of the instruction is the operator applied to the operands, or a fault. -/
theorem effect_instruction (op : Operator) (operand : Nat → Int64) (drawn : Direction × Generator) :
    op.instruction.effect operand drawn =
      if op.Divides ∧ operand 0 = 0 then .divideByZero
      else .push [op.apply (operand 1) (operand 0)] := by
  cases op with
  | add => simp [instruction, Instruction.effect, Divides, apply, Int64.ofInt_add]
  | subtract => simp [instruction, Instruction.effect, Divides, apply, Int64.ofInt_sub]
  | multiply => simp [instruction, Instruction.effect, Divides, apply, Int64.ofInt_mul]
  | divide => simp [instruction, Instruction.effect, Divides, apply_divide]
  | modulo => simp [instruction, Instruction.effect, Divides, apply_modulo]
  | greater => simp [instruction, Instruction.effect, Divides, apply_greater]

@[simp] theorem arity_instruction (op : Operator) : op.instruction.arity = 2 := by
  cases op <;> rfl

/-- The one quotient that does not fit wraps around, and leaves no remainder. -/
example : divide.apply Int64.minValue (-1) = Int64.minValue ∧
    modulo.apply Int64.minValue (-1) = 0 := by decide

end Operator

/-! ### Expressions -/

/-- Expressions over the digits. -/
inductive Expression where
  | digit (d : Fin 10)
  | binary (op : Operator) (left right : Expression)
  | not (operand : Expression)
deriving DecidableEq, Repr

namespace Expression

/-- The value of an expression. -/
def value : Expression → Int64
  | digit d => Int64.ofNat d
  | binary op left right => op.apply left.value right.value
  | not operand => if operand.value = 0 then 1 else 0

/-- The character that writes the root of an expression. -/
def glyph : Expression → Char
  | digit d => Nat.digitChar d
  | binary op _ _ => op.instruction.glyph
  | not _ => Instruction.not.glyph

/-- An expression with each operator behind its operands. -/
def polish : Expression → List Char
  | digit d => [(digit d).glyph]
  | binary op left right => left.polish ++ right.polish ++ [(binary op left right).glyph]
  | not operand => operand.polish ++ [(not operand).glyph]

/-- The program that writes the value of an expression and halts. -/
def program (e : Expression) : List Char := e.polish ++ ['.', '@']

/-- The values that the root of an expression is applied to. -/
def operands : Expression → List Int64
  | digit _ => []
  | binary _ left right => [left.value, right.value]
  | not operand => [operand.value]

/-- The root of an expression is a division or remainder, and its right operand is zero. -/
def DividesByZero : Expression → Prop
  | binary op _ right => op.Divides ∧ right.value = 0
  | digit _ | not _ => False

instance (e : Expression) : Decidable e.DividesByZero :=
  match e with
  | binary _ _ _ => inferInstanceAs (Decidable (_ ∧ _))
  | digit _ => inferInstanceAs (Decidable False)
  | not _ => inferInstanceAs (Decidable False)

/-- The nodes of an expression in the order in which they are computed. With each are the values that
wait for it: the left operands of the operators that have it on their right, the outermost first. -/
def schedule : Expression → List (List Int64 × Expression)
  | digit d => [([], digit d)]
  | binary op left right =>
    left.schedule ++ right.schedule.map (Prod.map (left.value :: ·) id) ++
      [([], binary op left right)]
  | not operand => operand.schedule ++ [([], not operand)]

/-- No node on a schedule divides by zero. -/
def Sound (entries : List (List Int64 × Expression)) : Prop :=
  ∀ entry ∈ entries, ¬ entry.2.DividesByZero

instance (entries : List (List Int64 × Expression)) : Decidable (Sound entries) :=
  inferInstanceAs (Decidable (∀ entry ∈ entries, ¬ entry.2.DividesByZero))

/-- The first division by zero in the order of computation: which node on the schedule it is, and
the values that wait for it. -/
structure FirstFault (e : Expression) (k : Nat) (waiting : List Int64) (node : Expression) :
    Prop where
  place : e.schedule[k]? = some (waiting, node)
  divides : node.DividesByZero
  earlier : Sound (e.schedule.take k)

theorem sound_append {entries more : List (List Int64 × Expression)} :
    Sound (entries ++ more) ↔ Sound entries ∧ Sound more := List.forall_mem_append

theorem sound_waiting {entries : List (List Int64 × Expression)} (v : Int64) :
    Sound (entries.map (Prod.map (v :: ·) id)) ↔ Sound entries := List.forall_mem_map

theorem sound_singleton {waiting : List Int64} {node : Expression} :
    Sound [(waiting, node)] ↔ ¬ node.DividesByZero := List.forall_mem_singleton

/-- The place of a node on two schedules, one after the other, and what is before it. -/
theorem place_append {entries more : List (List Int64 × Expression)} {k : Nat}
    {entry : List Int64 × Expression} (h : (entries ++ more)[k]? = some entry) :
    (entries[k]? = some entry ∧ (entries ++ more).take k = entries.take k) ∨
    ∃ j, k = entries.length + j ∧ more[j]? = some entry ∧
      (entries ++ more).take k = entries ++ more.take j := by
  rcases Nat.lt_or_ge k entries.length with hk | hk
  · rw [List.getElem?_append_left hk] at h
    exact .inl ⟨h, List.take_append_of_le_length (Nat.le_of_lt hk)⟩
  · obtain ⟨j, rfl⟩ := Nat.exists_eq_add_of_le hk
    rw [List.getElem?_append_right hk, Nat.add_sub_cancel_left] at h
    exact .inr ⟨j, rfl, h, List.take_length_add_append ..⟩

theorem place_singleton {entry other : List Int64 × Expression} {k : Nat}
    (h : [other][k]? = some entry) : k = 0 ∧ entry = other := by
  cases k with
  | zero => exact ⟨rfl, (Option.some.inj h).symm⟩
  | succ k => cases h

/-- The program writes one character for each node. -/
theorem polish_eq (e : Expression) : e.polish = e.schedule.map fun entry => entry.2.glyph := by
  induction e with
  | digit d => rfl
  | binary op left right hleft hright => simp [polish, schedule, hleft, hright]
  | not operand ih => simp [polish, schedule, ih]

@[simp] theorem length_schedule (e : Expression) : e.schedule.length = e.polish.length := by
  rw [polish_eq, List.length_map]

theorem glyph_of_place {e node : Expression} {k : Nat} {waiting : List Int64}
    (h : e.schedule[k]? = some (waiting, node)) : e.polish[k]? = some node.glyph := by
  rw [polish_eq, List.getElem?_map, h]
  rfl

/-- If a division by zero is on a schedule, some one is the first. -/
theorem exists_first {entries : List (List Int64 × Expression)} (h : ¬ Sound entries) :
    ∃ k waiting node, entries[k]? = some (waiting, node) ∧ node.DividesByZero ∧
      Sound (entries.take k) := by
  induction entries with
  | nil => exact absurd (List.forall_mem_nil _) h
  | cons entry entries ih =>
      by_cases hentry : entry.2.DividesByZero
      · exact ⟨0, entry.1, entry.2, rfl, hentry, List.forall_mem_nil _⟩
      · have hrest : ¬ Sound entries := fun hs => h (List.forall_mem_cons.mpr ⟨hentry, hs⟩)
        obtain ⟨k, waiting, node, hplace, hdivides, hearlier⟩ := ih hrest
        exact ⟨k + 1, waiting, node, hplace, hdivides, List.forall_mem_cons.mpr ⟨hentry, hearlier⟩⟩

theorem exists_firstFault {e : Expression} (h : ¬ Sound e.schedule) :
    ∃ k waiting node, e.FirstFault k waiting node := by
  obtain ⟨k, waiting, node, hplace, hdivides, hearlier⟩ := exists_first h
  exact ⟨k, waiting, node, hplace, hdivides, hearlier⟩

theorem FirstFault.glyph_append {e node : Expression} {k : Nat} {waiting : List Int64}
    (h : e.FirstFault k waiting node) (text : List Char) :
    (e.polish ++ text)[k]? = some node.glyph := by
  have hpolish := glyph_of_place h.place
  have hk := (List.getElem?_eq_some_iff.mp hpolish).1
  rwa [List.getElem?_append_left hk]

theorem FirstFault.glyph_eq {e node : Expression} {k : Nat} {waiting : List Int64}
    (h : e.FirstFault k waiting node) : node.glyph = '/' ∨ node.glyph = '%' := by
  have hdivides := h.divides
  cases node with
  | digit d => exact hdivides.elim
  | not operand => exact hdivides.elim
  | binary op left right =>
      rcases hdivides.1 with rfl | rfl
      · exact .inl rfl
      · exact .inr rfl

theorem glyph_ne_newline (e : Expression) : e.glyph ≠ '\n' := by
  cases e with
  | digit d =>
      revert d
      decide
  | binary op left right => cases op <;> simp [glyph, Operator.instruction, Instruction.glyph]
  | not operand => simp [glyph, Instruction.glyph]

theorem newline_not_mem_program (e : Expression) : '\n' ∉ e.program := by
  intro h
  rw [program, polish_eq] at h
  rcases List.mem_append.mp h with h | h
  · obtain ⟨entry, -, hglyph⟩ := List.mem_map.mp h
    exact glyph_ne_newline _ hglyph
  · exact absurd h (by decide)

theorem program_ne_nil (e : Expression) : e.program ≠ [] :=
  List.append_ne_nil_of_right_ne_nil _ (List.cons_ne_nil _ _)

end Expression

/-! ### Running an expression -/

namespace Machine

open Expression

variable {σ : Type} [Host σ] {m : Machine} {s : Stack} {e : Expression} {text : List Char}

/-- A node takes its operands off the stack and puts its value there. -/
theorem Faces.step_of_node (h : m.Faces (e.glyph :: text)) (hmode : m.stringMode = false)
    (hstack : m.stack = s.pushAll e.operands) (hsound : ¬ e.DividesByZero) (host : σ) :
    m.step host = ((m.holding (s.push e.value)).ahead 1, host) := by
  cases e with
  | digit d =>
      obtain rfl : m.stack = s := hstack
      exact h.step_of_digit hmode host
  | binary op left right =>
      have heffect : op.instruction.effect m.stack.peek m.generator.next =
          .push [op.apply left.value right.value] := by
        rw [op.effect_instruction, hstack]
        exact if_neg hsound
      have hdrop : m.stack.drop op.instruction.arity = s := by
        rw [op.arity_instruction, hstack]
        rfl
      have hstep := h.step_of_instruction hmode heffect host
      rwa [hdrop] at hstep
  | not operand =>
      have heffect : Instruction.not.effect m.stack.peek m.generator.next =
          .push [if operand.value = 0 then 1 else 0] := by
        rw [hstack]
        rfl
      have hdrop : m.stack.drop Instruction.not.arity = s := by
        rw [hstack]
        rfl
      have hstep := h.step_of_instruction hmode heffect host
      rwa [hdrop] at hstep

/-- A node that divides by zero takes its operands off the stack and fails. -/
theorem Faces.step_of_fault (h : m.Faces (e.glyph :: text)) (hmode : m.stringMode = false)
    (hstack : m.stack = s.pushAll e.operands) (hdivides : e.DividesByZero) (host : σ) :
    m.step host = ((m.holding s).count.failHere .divisionByZero, host) := by
  cases e with
  | digit d => exact hdivides.elim
  | not operand => exact hdivides.elim
  | binary op left right =>
      have heffect : op.instruction.effect m.stack.peek m.generator.next = .divideByZero := by
        rw [op.effect_instruction, hstack]
        exact if_pos hdivides
      have hdrop : m.stack.drop op.instruction.arity = s := by
        rw [op.arity_instruction, hstack]
        rfl
      have hstep := h.step_of_divideByZero hmode heffect host
      rwa [hdrop] at hstep

/-- An expression that divides by zero nowhere is replaced by its value. -/
theorem stepN_of_expression (h : m.Faces (e.polish ++ text)) (hmode : m.stringMode = false)
    (hsound : Sound e.schedule) (host : σ) :
    stepN e.polish.length m host =
      ((m.holding (m.stack.push e.value)).ahead e.polish.length, host) := by
  induction e generalizing m text with
  | digit d => exact Faces.step_of_node h hmode rfl (sound_singleton.mp hsound) host
  | binary op left right hleft hright =>
      simp only [schedule, sound_append, sound_waiting, sound_singleton] at hsound
      obtain ⟨⟨hsoundl, hsoundr⟩, hroot⟩ := hsound
      simp only [polish, List.append_assoc] at h
      -- The left operand, the right one above it, and the operator.
      have hfirst := hleft h hmode hsoundl
      have hnext := (h.holding (m.stack.push left.value)).ahead
      have hsecond := hright hnext hmode hsoundr
      have hlast := (hnext.holding ((m.stack.push left.value).push right.value)).ahead
      have hstep := hlast.step_of_node hmode rfl hroot host
      simp only [polish, List.length_append]
      refine stepN_ahead_add (stepN_ahead_add hfirst hsecond) ?_
      rwa [← holding_ahead_holding_ahead]
  | not operand ih =>
      simp only [schedule, sound_append, sound_singleton] at hsound
      simp only [polish, List.append_assoc] at h
      have hlast := (h.holding (m.stack.push operand.value)).ahead
      have hstep := hlast.step_of_node hmode rfl hsound.2 host
      simp only [polish, List.length_append]
      exact stepN_ahead_add (ih h hmode hsound.1) hstep

/-- If nothing before a node divides by zero, the machine reaches the node with the values that wait
for it on its stack, and the operands of the node above them. -/
theorem stepN_of_node {k : Nat} {waiting : List Int64} {node : Expression}
    (h : m.Faces (e.polish ++ text)) (hmode : m.stringMode = false)
    (hplace : e.schedule[k]? = some (waiting, node)) (hsound : Sound (e.schedule.take k))
    (host : σ) :
    stepN k m host =
      ((m.holding ((m.stack.pushAll waiting).pushAll node.operands)).ahead k, host) := by
  induction e generalizing m text k waiting with
  | digit d =>
      obtain ⟨rfl, hentry⟩ := place_singleton hplace
      obtain ⟨rfl, rfl⟩ := Prod.mk.inj hentry
      exact congrArg (·, host) (ahead_zero m).symm
  | binary op left right hleft hright =>
      simp only [polish, List.append_assoc] at h
      rcases place_append hplace with ⟨hinner, htake⟩ | ⟨j, rfl, hroot, htake⟩
      · rw [schedule, htake] at hsound
        rcases place_append hinner with ⟨hl, htake⟩ | ⟨j, rfl, hr, htake⟩
        · rw [htake] at hsound
          exact hleft h hmode hl hsound
        · -- The left operand waits while the node is computed.
          rw [htake, ← List.map_take, sound_append, sound_waiting] at hsound
          rw [List.getElem?_map, Option.map_eq_some_iff] at hr
          obtain ⟨⟨inner, node⟩, hr, hentry⟩ := hr
          obtain ⟨rfl, rfl⟩ := Prod.mk.inj hentry
          have hfirst := stepN_of_expression h hmode hsound.1 host
          have hnext := (h.holding (m.stack.push left.value)).ahead
          have hsecond := hright hnext hmode hr hsound.2
          rw [length_schedule]
          exact stepN_ahead_add hfirst hsecond
      · obtain ⟨rfl, hentry⟩ := place_singleton hroot
        obtain ⟨rfl, rfl⟩ := Prod.mk.inj hentry
        rw [schedule, htake] at hsound
        simp only [List.take_zero, List.append_nil, sound_append, sound_waiting] at hsound
        have hfirst := stepN_of_expression h hmode hsound.1 host
        have hnext := (h.holding (m.stack.push left.value)).ahead
        have hsecond := stepN_of_expression hnext hmode hsound.2 host
        simp only [List.length_append, List.length_map, length_schedule, Nat.add_zero]
        exact stepN_ahead_add hfirst hsecond
  | not operand ih =>
      simp only [polish, List.append_assoc] at h
      rcases place_append hplace with ⟨hinner, htake⟩ | ⟨j, rfl, hroot, htake⟩
      · rw [schedule, htake] at hsound
        exact ih h hmode hinner hsound
      · obtain ⟨rfl, hentry⟩ := place_singleton hroot
        obtain ⟨rfl, rfl⟩ := Prod.mk.inj hentry
        rw [schedule, htake, List.take_zero, List.append_nil] at hsound
        rw [length_schedule]
        exact stepN_of_expression h hmode hsound host

/-- The first division by zero ends the run, and leaves the values that wait for it. -/
theorem stepN_of_firstFault {k : Nat} {waiting : List Int64} {node : Expression}
    (h : m.Faces (e.polish ++ text)) (hmode : m.stringMode = false)
    (hfault : e.FirstFault k waiting node) (host : σ) :
    stepN (k + 1) m host =
      (((m.holding (m.stack.pushAll waiting)).ahead k).count.failHere .divisionByZero, host) := by
  have hreached := stepN_of_node h hmode hfault.place hfault.earlier host
  have hchar := hfault.glyph_append text
  have hfaces := (h.holding ((m.stack.pushAll waiting).pushAll node.operands)).ahead_getElem hchar
  have hstep := hfaces.step_of_fault hmode rfl hfault.divides host
  rw [stepN_add, hreached, stepN_succ, hstep]
  rfl

/-- The program of an expression that divides by zero nowhere writes its value and halts. -/
theorem stepN_of_program {host left : σ} (h : m.Faces e.program) (hmode : m.stringMode = false)
    (hsound : Sound e.schedule) (hwrite : Host.writeInteger e.value host = (.ok (), left)) :
    stepN e.program.length m host = ({ m with state := .halted }.ahead e.program.length, left) := by
  let computed := (m.holding (m.stack.push e.value)).ahead e.polish.length
  let written := (computed.holding m.stack).ahead 1
  have hcomputing : stepN e.polish.length m host = (computed, host) :=
    stepN_of_expression h hmode hsound host
  have hcomputed : computed.Faces [Instruction.outputInteger.glyph, Instruction.halt.glyph] :=
    (h.holding (m.stack.push e.value)).ahead
  have hwriting : computed.step host = (written, left) :=
    hcomputed.step_of_output hmode rfl hwrite
  have hwritten : written.Faces [Instruction.halt.glyph] := (hcomputed.holding m.stack).next
  have hhalting : written.step left = ({ written with state := .halted }.ahead 1, left) :=
    hwritten.step_of_halt hmode left
  have hmachine : { written with state := .halted }.ahead 1 =
      { m with state := .halted }.ahead (e.polish.length + 2) := by
    rw [← ahead_ahead _ e.polish.length 2, ← ahead_ahead _ 1 1]
    rfl
  have hlength : e.program.length = e.polish.length + 2 := List.length_append
  rw [hlength, ← hmachine, stepN_add, hcomputing, stepN_succ, hwriting, stepN_succ, hhalting,
    stepN_zero]

/-- The program of an expression computes the expression. It loads. If the expression divides by zero
nowhere, its run has the host write the value, and nothing else, and halts with an empty stack and the
playfield it began with, and it has executed each character of the program once. Otherwise its run
fails at the column of the first division by zero in the order of computation, has called no host, and
leaves on the stack the values that wait for that division. On a console the value is written as a
decimal numeral and a space. -/
theorem expression_program_computes (e : Expression) (seed : UInt64) {budget : Option UInt64}
    (hbudget : ∀ limit, budget = some limit → e.program.length ≤ limit.toNat) :
    ∃ f, Playfield.ofSource? (String.ofList e.program) = some f ∧
      (Sound e.schedule → ∀ {σ : Type} [Host σ] (host left : σ),
        Host.writeInteger e.value host = (.ok (), left) →
        ∃ call, Completes (start f seed budget) host call ∧ call.answer = .ok () ∧
          call.host = left ∧ call.machine.state = .halted ∧ call.machine.stack = .empty ∧
          call.machine.playfield = f ∧ call.machine.steps = e.program.length) ∧
      (¬ Sound e.schedule → ∃ k waiting node, e.FirstFault k waiting node) ∧
      (∀ k waiting node, e.FirstFault k waiting node →
        e.program[k]? = some node.glyph ∧ (node.glyph = '/' ∨ node.glyph = '%') ∧
        ∀ {σ : Type} [Host σ] (host : σ),
          ∃ call, Completes (start f seed budget) host call ∧
            call.answer = .error (Cause.divisionByZero.faultAt ⟨0, k⟩) ∧ call.host = host ∧
            call.machine.error = some (Cause.divisionByZero.faultAt ⟨0, k⟩) ∧
            call.machine.stack.toList = waiting ∧ call.machine.playfield = f ∧
            call.machine.steps = k + 1) ∧
      ∀ c : Console, c.sink.Open →
        ∃ left, Host.writeInteger e.value c = (.ok (), left) ∧
          left.written = c.written ++ Utf8.encode (Decimal.print e.value.toInt ++ [' ']) := by
  obtain ⟨f, hload, hcells⟩ :=
    Playfield.exists_ofSource?_of_line e.newline_not_mem_program e.program_ne_nil
  have hfaces : (start f seed budget).Faces e.program := .of_start seed hcells hbudget
  refine ⟨f, hload, ?_, exists_firstFault, ?_, ?_⟩
  · intro hsound σ _ host left hwrite
    have hrun := stepN_of_program hfaces rfl hsound hwrite
    exact ⟨_, completes_of_halted (.start f seed budget) hrun rfl, rfl, rfl, rfl, rfl, rfl,
      Nat.zero_add _⟩
  · intro k waiting node hfault
    refine ⟨hfault.glyph_append _, hfault.glyph_eq, ?_⟩
    intro σ _ host
    have hrun := stepN_of_firstFault hfaces rfl hfault host
    have hposition : ((start f seed budget).ahead k).position = ⟨0, k⟩ := by
      simp [ahead, start, Position.origin]
    rw [← hposition]
    exact ⟨_, completes_of_failed (.start f seed budget) hrun rfl, rfl, rfl, rfl,
      Stack.toList_pushAll .empty waiting, rfl, congrArg Nat.succ (Nat.zero_add k)⟩
  · intro c hopen
    exact ⟨_, Console.write_eq_wrote hopen .integer e.value, Console.written_wrote ..⟩

/-- Seven minus five divided by the difference of three and three: the seven waits for the division,
which fails. -/
theorem expression_program_computes_of_difference :
    let quotient := Expression.binary .divide (.digit 5) (.binary .subtract (.digit 3) (.digit 3))
    let e := Expression.binary .subtract (.digit 7) quotient
    (∀ limit, some (9 : UInt64) = some limit → e.program.length ≤ limit.toNat) ∧
    e.program = ['7', '5', '3', '3', '-', '/', '-', '.', '@'] ∧ e.FirstFault 5 [7] quotient ∧
    ∃ f, Playfield.ofSource? (String.ofList e.program) = some f ∧
      ∃ call, Completes (start f 0 (some 9)) (Console.ofInput [] {}) call ∧
        call.answer = .error (Cause.divisionByZero.faultAt ⟨0, 5⟩) ∧
        call.machine.stack.toList = [7] ∧ call.machine.steps = 6 := by
  intro quotient e
  have hbudget : ∀ limit, some (9 : UInt64) = some limit → e.program.length ≤ limit.toNat := by
    rintro _ ⟨⟩
    decide
  have hfault : e.FirstFault 5 [7] quotient := ⟨rfl, by decide, by decide⟩
  obtain ⟨f, hload, -, -, hfails, -⟩ := expression_program_computes e 0 hbudget
  obtain ⟨-, -, hrun⟩ := hfails 5 [7] quotient hfault
  obtain ⟨call, hcompletes, hanswer, -, -, hwaiting, -, hsteps⟩ := hrun (Console.ofInput [] {})
  exact ⟨hbudget, by decide, hfault, f, hload, call, hcompletes, hanswer, hwaiting, hsteps⟩

end Machine

end Funge
