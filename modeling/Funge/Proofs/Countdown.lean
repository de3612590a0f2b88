import Funge.Proofs.Budget
import Funge.Proofs.Numerals
import Funge.Proofs.StraightLine

/-!
# A program that counts down

The program reads a number and writes it and all smaller ones down to 1.

```
&>:.1-:v
 ^     _@
```

Its loop is a circuit of fourteen cells on both rows. It is proved block by block: `stepN_entry`
reads the number, `stepN_body` writes a number and takes one off it, `stepN_back` leads from a
number that is not zero to the next turn, and `stepN_exit` from zero to the end. The loop lemma
`stepN_loop` only composes them, and the number on the stack is its invariant.
-/

namespace Funge

/-! ### A budget that is too small -/

namespace Machine

variable {σ : Type} [Host σ] {f : Playfield} {seed limit : UInt64} {host : σ} {n : Nat}

/-- A machine that executes more cells than a budget allows is cut off by the budget. -/
theorem exists_completes_of_spent (hsteps : (stepN n (start f seed none) host).1.steps = n)
    (hlimit : limit.toNat < n) :
    ∃ call, Completes (start f seed (some limit)) host call ∧
      (∃ p, call.answer = .error ((Cause.stepLimit limit).faultAt p) ∧
        call.machine.error = some ((Cause.stepLimit limit).faultAt p)) ∧
      call.host = (stepN limit.toNat (start f seed none) host).2 := by
  have hrun : (stepN limit.toNat (start f seed none) host).1.status = .running := by
    refine Decidable.byContradiction fun hended => ?_
    -- Nothing would have been executed since, and so not as many cells.
    obtain ⟨d, rfl⟩ := Nat.exists_eq_add_of_lt hlimit
    rw [Nat.add_assoc, stepN_add, stepN_of_not_running hended] at hsteps
    have hcount := steps_stepN_le limit.toNat (start f seed none) host
    rw [hsteps] at hcount
    change limit.toNat + (d + 1) ≤ 0 + limit.toNat at hcount
    omega
  have hcut : stepN (limit.toNat + 1) (start f seed (some limit)) host = _ := stepN_start_eq_cutOff
  rw [cutOff_of_running hrun] at hcut
  exact ⟨_, completes_of_failed (.start f seed _) hcut rfl, ⟨_, rfl, rfl⟩, rfl⟩

end Machine

namespace Countdown

/-- The text of the program. -/
def source : String := "&>:.1-:v\n ^     _@\n"

/-- The playfield of the program. -/
def field : Playfield where
  height := 2
  width := 9
  cells := #[
    .instruction .inputInteger, .instruction .right, .instruction .duplicate,
    .instruction .outputInteger, .digit 1, .instruction .subtract, .instruction .duplicate,
    .instruction .down, .blank,
    .blank, .instruction .up, .blank, .blank, .blank, .blank, .blank, .instruction .horizontalIf,
    .instruction .halt]
  height_pos := by decide
  width_pos := by decide
  size_eq := rfl

theorem ofSource?_source : Playfield.ofSource? source = some field := by decide

/-- The numbers from some number down to 1, each with a space behind it. -/
def numbersDown : Nat → List Char
  | 0 => []
  | n + 1 => Decimal.print (n + 1 : Nat) ++ ' ' :: numbersDown n

/-! ### Numbers on the stack -/

theorem ofNat_succ_sub_one (n : Nat) : Int64.ofNat (n + 1) - 1 = Int64.ofNat n := by
  rw [Int64.ofNat_add]
  exact Int64.add_sub_cancel _ _

theorem toInt_ofNat {n : Nat} (h : n ≤ 2 ^ 60) : (Int64.ofNat n).toInt = n :=
  Int64.toInt_ofNat_of_lt (by omega)

theorem ofNat_ne_zero {n : Nat} (h : n + 1 ≤ 2 ^ 60) : Int64.ofNat (n + 1) ≠ 0 := by
  intro hzero
  have hint := toInt_ofNat h
  rw [hzero] at hint
  cases hint

/-! ### One cell -/

/-- A machine without a budget that runs the program: how many cells it has executed, where it is
and where it heads, and the values on its stack, the top one first. -/
def stage (g : Generator) (steps : Nat) (p : Position) (d : Direction) (values : List Int64) :
    Machine where
  playfield := field
  stack := ⟨values, values.length, rfl⟩
  position := p
  direction := d
  stringMode := false
  state := .running
  error := none
  generator := g
  steps := steps
  budget := none

/-- The instruction that turns to a direction. -/
def arrow : Direction → Instruction
  | .right => .right
  | .left => .left
  | .up => .up
  | .down => .down

variable {g : Generator} {k n : Nat} {p : Position} {d : Direction} {v w : Int64}
  {values : List Int64} {cell : Cell} {c : Console}

theorem step_stage (h : field.read p = .ok cell) :
    (stage g k p d values).step c =
      ((((stage g k p d values).begin cell).apply c ((stage g k p d values).effect cell)).1.settle,
        (((stage g k p d values).begin cell).apply c ((stage g k p d values).effect cell)).2) :=
  Machine.step_of_fetch_ok rfl (Machine.fetch_of_read_ok rfl h) c

theorem step_blank (h : field.read p = .ok .blank) :
    (stage g k p d values).step c = (stage g (k + 1) (p.next d) d values, c) := step_stage h

theorem step_one (h : field.read p = .ok (.digit 1)) :
    (stage g k p d values).step c = (stage g (k + 1) (p.next d) d (1 :: values), c) := step_stage h

theorem step_duplicate (h : field.read p = .ok (.instruction .duplicate)) :
    (stage g k p d (v :: values)).step c =
      (stage g (k + 1) (p.next d) d (v :: v :: values), c) := step_stage h

theorem step_subtract (h : field.read p = .ok (.instruction .subtract)) :
    (stage g k p d (w :: v :: values)).step c =
      (stage g (k + 1) (p.next d) d ((v - w) :: values), c) := step_stage h

theorem step_arrow (t : Direction) (h : field.read p = .ok (.instruction (arrow t))) :
    (stage g k p d values).step c = (stage g (k + 1) (p.next t) t values, c) := by
  cases t with
  | right => exact step_stage h
  | left => exact step_stage h
  | up => exact step_stage h
  | down => exact step_stage h

/-- The turn at the end of the loop: to the right on zero, back to the left on another value. -/
theorem step_horizontalIf (h : field.read p = .ok (.instruction .horizontalIf)) :
    (stage g k p d (v :: values)).step c =
      let t := if v = 0 then Direction.right else .left
      (stage g (k + 1) (p.next t) t values, c) := step_stage h

theorem step_output (hopen : c.sink.Open) (h : field.read p = .ok (.instruction .outputInteger)) :
    (stage g k p d (v :: values)).step c =
      (stage g (k + 1) (p.next d) d values, c.wrote (Format.integer.bytes v)) := by
  have heffect : (stage g k p d (v :: values)).effect (.instruction .outputInteger) =
      .output .integer v := rfl
  rw [step_stage h, heffect, Machine.apply, Machine.deliver_eq, Console.write_eq_wrote hopen]
  rfl

theorem step_input {after : Console} (hread : c.readInteger = (.ok v, after))
    (h : field.read p = .ok (.instruction .inputInteger)) :
    (stage g k p d values).step c = (stage g (k + 1) (p.next d) d (v :: values), after) := by
  have heffect : (stage g k p d values).effect (.instruction .inputInteger) = .input .integer := rfl
  have hformat : Format.integer.read c = (.ok v, after) := hread
  rw [step_stage h, heffect, Machine.apply, Machine.receive_eq, hformat]
  rfl

theorem step_halt (h : field.read p = .ok (.instruction .halt)) :
    (stage g k p d values).step c =
      ({ stage g (k + 1) (p.next d) d values with state := .halted }, c) := step_stage h

/-! ### Blocks -/

section

variable {m m' : Machine} {c c' : Console}

/-- One step, and then some more. -/
theorem stepN_cons (h : m.step c = (m', c')) (n : Nat) : m.stepN (n + 1) c = m'.stepN n c' := by
  rw [Machine.stepN_succ, h]

/-- Some steps, and then some more. -/
theorem stepN_append {j : Nat} (h : m.stepN j c = (m', c')) (n : Nat) :
    m.stepN (j + n) c = m'.stepN n c' := by
  rw [Machine.stepN_add, h]

end

/-- Into the loop, with the number that was read. -/
theorem stepN_entry {after : Console} (hread : c.readInteger = (.ok v, after)) :
    (stage g k ⟨0, 0⟩ .right []).stepN 2 c = (stage g (k + 2) ⟨0, 2⟩ .right [v], after) :=
  calc (stage g k ⟨0, 0⟩ .right []).stepN 2 c
      = (stage g (k + 1) ⟨0, 1⟩ .right [v]).stepN 1 after :=
      stepN_cons (step_input hread (by decide)) 1
    _ = (stage g (k + 2) ⟨0, 2⟩ .right [v], after) :=
      stepN_cons (step_arrow .right (by decide)) 0

/-- The number on the stack is written, and one is taken off it. -/
theorem stepN_body (hopen : c.sink.Open) (n : Nat) :
    (stage g k ⟨0, 2⟩ .right [Int64.ofNat (n + 1)]).stepN 6 c =
      (stage g (k + 6) ⟨1, 7⟩ .down [Int64.ofNat n, Int64.ofNat n],
        c.wrote (Format.integer.bytes (Int64.ofNat (n + 1)))) := by
  let v := Int64.ofNat (n + 1)
  calc (stage g k ⟨0, 2⟩ .right [v]).stepN 6 c
      = (stage g (k + 1) ⟨0, 3⟩ .right [v, v]).stepN 5 c :=
      stepN_cons (step_duplicate (by decide)) 5
    _ = (stage g (k + 2) ⟨0, 4⟩ .right [v]).stepN 4 (c.wrote (Format.integer.bytes v)) :=
      stepN_cons (step_output hopen (by decide)) 4
    _ = (stage g (k + 3) ⟨0, 5⟩ .right [1, v]).stepN 3 _ := stepN_cons (step_one (by decide)) 3
    _ = (stage g (k + 4) ⟨0, 6⟩ .right [v - 1]).stepN 2 _ :=
      stepN_cons (step_subtract (by decide)) 2
    _ = (stage g (k + 5) ⟨0, 7⟩ .right [v - 1, v - 1]).stepN 1 _ :=
      stepN_cons (step_duplicate (by decide)) 1
    _ = (stage g (k + 6) ⟨1, 7⟩ .down [v - 1, v - 1], _) :=
      stepN_cons (step_arrow .down (by decide)) 0
    _ = (stage g (k + 6) ⟨1, 7⟩ .down [Int64.ofNat n, Int64.ofNat n], _) := by
      rw [ofNat_succ_sub_one]

/-- Back to the first cell of the loop with a number that is not zero. -/
theorem stepN_back (hv : v ≠ 0) :
    (stage g k ⟨1, 7⟩ .down [v, v]).stepN 8 c = (stage g (k + 8) ⟨0, 2⟩ .right [v], c) := by
  have hturn : (stage g k ⟨1, 7⟩ .down [v, v]).step c = (stage g (k + 1) ⟨1, 6⟩ .left [v], c) := by
    rw [step_horizontalIf (by decide), if_neg hv]
    rfl
  calc (stage g k ⟨1, 7⟩ .down [v, v]).stepN 8 c
      = (stage g (k + 1) ⟨1, 6⟩ .left [v]).stepN 7 c := stepN_cons hturn 7
    _ = (stage g (k + 2) ⟨1, 5⟩ .left [v]).stepN 6 c := stepN_cons (step_blank (by decide)) 6
    _ = (stage g (k + 3) ⟨1, 4⟩ .left [v]).stepN 5 c := stepN_cons (step_blank (by decide)) 5
    _ = (stage g (k + 4) ⟨1, 3⟩ .left [v]).stepN 4 c := stepN_cons (step_blank (by decide)) 4
    _ = (stage g (k + 5) ⟨1, 2⟩ .left [v]).stepN 3 c := stepN_cons (step_blank (by decide)) 3
    _ = (stage g (k + 6) ⟨1, 1⟩ .left [v]).stepN 2 c := stepN_cons (step_blank (by decide)) 2
    _ = (stage g (k + 7) ⟨0, 1⟩ .up [v]).stepN 1 c :=
      stepN_cons (step_arrow .up (by decide)) 1
    _ = (stage g (k + 8) ⟨0, 2⟩ .right [v], c) :=
      stepN_cons (step_arrow .right (by decide)) 0

/-- Out of the loop with zero. -/
theorem stepN_exit :
    (stage g k ⟨1, 7⟩ .down [0, 0]).stepN 2 c =
      ({ stage g (k + 2) ⟨1, 9⟩ .right [0] with state := .halted }, c) :=
  calc (stage g k ⟨1, 7⟩ .down [0, 0]).stepN 2 c
      = (stage g (k + 1) ⟨1, 8⟩ .right [0]).stepN 1 c :=
      stepN_cons (step_horizontalIf (by decide)) 1
    _ = ({ stage g (k + 2) ⟨1, 9⟩ .right [0] with state := .halted }, c) :=
      stepN_cons (step_halt (by decide)) 0

/-! ### The loop -/

/-- A number and a space are the beginning of what is written from this number down. -/
theorem encode_numbersDown_succ (hle : n + 1 ≤ 2 ^ 60) :
    Format.integer.bytes (Int64.ofNat (n + 1)) ++ Utf8.encode (numbersDown n) =
      Utf8.encode (numbersDown (n + 1)) := by
  rw [Format.bytes, toInt_ofNat hle, ← Utf8.encode_append, List.append_assoc]
  rfl

/-- From the head of the loop with a number above zero the machine writes it and all the smaller
ones, and halts. -/
theorem stepN_loop (hopen : c.sink.Open) (hle : n + 1 ≤ 2 ^ 60) :
    (stage g k ⟨0, 2⟩ .right [Int64.ofNat (n + 1)]).stepN (14 * n + 8) c =
      ({ stage g (k + (14 * n + 8)) ⟨1, 9⟩ .right [0] with state := .halted },
        c.wrote (Utf8.encode (numbersDown (n + 1)))) := by
  -- Induction on what is left of the number after a turn; what was written is in the console.
  induction n generalizing k c with
  | zero =>
      rw [← encode_numbersDown_succ hle, numbersDown, Utf8.encode_nil, List.append_nil]
      exact (stepN_append (stepN_body hopen 0) 2).trans stepN_exit
  | succ n ih =>
      have hcount : 14 * (n + 1) + 8 = 6 + (8 + (14 * n + 8)) := by omega
      have hsmaller : n + 1 ≤ 2 ^ 60 := Nat.le_of_succ_le hle
      have hrest := ih (k := k + 6 + 8)
        (Console.open_wrote hopen (Format.integer.bytes (Int64.ofNat (n + 2)))) hsmaller
      rw [Console.wrote_wrote, encode_numbersDown_succ hle] at hrest
      rw [hcount, stepN_append (stepN_body hopen (n + 1)),
        stepN_append (stepN_back (ofNat_ne_zero hsmaller)), hrest]
      simp only [Nat.add_assoc]

/-! ### The run -/

theorem isBlank_of_mem_print {i : Int} {char : Char} (h : char ∈ Decimal.print i) :
    Blank.isBlank char = false := by
  obtain ⟨numeral, hchars, -⟩ := Decimal.exists_numeral_print i
  rw [← hchars] at h
  exact Decimal.isBlank_of_mem_chars h

/-- A printed number is what is left of its line without the line feed. -/
theorem trims_print (i : Int) : Blank.Trims (Decimal.print i ++ ['\n']) (Decimal.print i) where
  around := ⟨[], ['\n'], rfl, List.forall_mem_singleton.mpr rfl⟩
  first _ h := isBlank_of_mem_print (List.mem_of_head? h)
  last _ h := isBlank_of_mem_print (List.mem_of_getLast? h)

/-- A number on a line of its own is read, and nothing else is left of the input. -/
theorem readInteger_number (hle : n ≤ 2 ^ 60) (sink : Sink) :
    (Console.ofInput (Utf8.encode (Decimal.print n ++ ['\n'])) sink).readInteger =
      (.ok (Int64.ofNat n), Console.ofInput [] sink) := by
  have hline : FirstLine '\n' (Decimal.print n ++ ['\n']) (Decimal.print n ++ ['\n']) [] :=
    .of_mark fun hmem => nomatch isBlank_of_mem_print hmem
  have hne : Decimal.print n ++ ['\n'] ≠ [] :=
    List.append_ne_nil_of_right_ne_nil _ (List.cons_ne_nil _ _)
  have hnumber : Console.integerOn (Decimal.print n ++ ['\n']) = .ok (Int64.ofNat n) := by
    obtain ⟨numeral, hchars, hvalue⟩ := Decimal.exists_numeral_print n
    exact (Console.integerOn_eq_ok_iff (trims_print n)).mpr
      ⟨numeral, hchars, hvalue.trans (toInt_ofNat hle).symm⟩
  rw [Console.readInteger_of_line rfl hline.encode hne, hnumber]
  rfl

/-- From the first cell to the last. -/
theorem stepN_program (hpos : 1 ≤ n) (hle : n ≤ 2 ^ 60) (seed : UInt64) {sink : Sink}
    (hopen : sink.Open) :
    (Machine.start field seed none).stepN (14 * n - 4)
        (Console.ofInput (Utf8.encode (Decimal.print n ++ ['\n'])) sink) =
      ({ stage (.ofSeed seed) (14 * n - 4) ⟨1, 9⟩ .right [0] with state := .halted },
        (Console.ofInput [] sink).wrote (Utf8.encode (numbersDown n))) := by
  obtain ⟨m, rfl⟩ := Nat.exists_eq_add_of_le' hpos
  have hstart : Machine.start field seed none = stage (.ofSeed seed) 0 ⟨0, 0⟩ .right [] := rfl
  have hcount : 14 * (m + 1) - 4 = 2 + (14 * m + 8) := by omega
  have hafter : (Console.ofInput [] sink).sink.Open := hopen
  rw [hstart, hcount, stepN_append (stepN_entry (readInteger_number hle sink)),
    stepN_loop hafter hle, Nat.zero_add]

/-- The program counts down. Given a number from 1 to 2^60 on a line, it halts after 14 cells for
each number but the last and 10 more, has written all the numbers from the given one to 1, and
leaves a zero on the stack and the playfield as it was. A budget that does not allow that many cells
ends the run, and what was written then is a beginning of the same text. -/
theorem counts_down (hpos : 1 ≤ n) (hle : n ≤ 2 ^ 60) (seed : UInt64) {sink : Sink}
    (hopen : sink.Open) :
    let console := Console.ofInput (Utf8.encode (Decimal.print n ++ ['\n'])) sink
    ∃ f, Playfield.ofSource? source = some f ∧
      (∃ call, Machine.Completes (.start f seed none) console call ∧
        call.answer = .ok () ∧ call.machine.state = .halted ∧ call.machine.steps = 14 * n - 4 ∧
        call.machine.stack.toList = [0] ∧ call.machine.stringMode = false ∧
        call.machine.playfield = f ∧
        call.host.written = console.written ++ Utf8.encode (numbersDown n)) ∧
      ∀ limit : UInt64, limit.toNat < 14 * n - 4 →
        ∃ call, Machine.Completes (.start f seed (some limit)) console call ∧
          (∃ p, call.answer = .error ((Cause.stepLimit limit).faultAt p) ∧
            call.machine.error = some ((Cause.stepLimit limit).faultAt p)) ∧
          console.written <+: call.host.written ∧
          call.host.written <+: console.written ++ Utf8.encode (numbersDown n) := by
  intro console
  have hrun := stepN_program hpos hle seed hopen
  have hwritten : ((Console.ofInput [] sink).wrote (Utf8.encode (numbersDown n))).written =
      console.written ++ Utf8.encode (numbersDown n) := Console.written_wrote _ _
  have hcompletes := Machine.completes_of_halted (.start field seed none) hrun rfl
  refine ⟨field, ofSource?_source, ⟨_, hcompletes, rfl, rfl, rfl, rfl, rfl, rfl, hwritten⟩,
    fun limit hlimit => ?_⟩
  have hsteps : ((Machine.start field seed none).stepN (14 * n - 4) console).1.steps =
      14 * n - 4 := congrArg (·.1.steps) hrun
  obtain ⟨call, hspent, hfault, hleft⟩ := Machine.exists_completes_of_spent hsteps hlimit
  have hprefix := Machine.written_prefix_stepN (c := console) hopen (Nat.le_of_lt hlimit)
    (.start field seed none)
  rw [hrun, hwritten] at hprefix
  refine ⟨call, hspent, hfault, ?_⟩
  rw [hleft]
  exact ⟨(Machine.open_stepN (c := console) hopen _ _).2, hprefix⟩

/-- Three is written with both smaller numbers, and one cell less than it takes is too few. -/
theorem counts_down_from_three :
    let console := Console.ofInput (Utf8.encode "3\n".toList) {}
    (∃ call, Machine.Completes (.start field 7 none) console call ∧ call.answer = .ok () ∧
      call.machine.steps = 38 ∧ call.host.written = Utf8.encode "3 2 1 ".toList) ∧
    ∃ call, Machine.Completes (.start field 7 (some 37)) console call ∧
      (∃ p, call.answer = .error ((Cause.stepLimit 37).faultAt p) ∧
        call.machine.error = some ((Cause.stepLimit 37).faultAt p)) ∧
      call.host.written <+: Utf8.encode "3 2 1 ".toList := by
  intro console
  have hopen : ({} : Sink).Open := ⟨rfl, rfl⟩
  obtain ⟨f, hload, ⟨call, hcompletes, hanswer, -, hsteps, -, -, -, hwritten⟩, hcut⟩ :=
    counts_down (by decide : 1 ≤ 3) (by decide) 7 hopen
  obtain rfl := Option.some.inj (ofSource?_source.symm.trans hload)
  obtain ⟨call', hcompletes', hfault, -, hprefix⟩ := hcut 37 (by decide)
  exact ⟨⟨call, hcompletes, hanswer, hsteps, hwritten⟩, call', hcompletes', hfault, hprefix⟩

end Countdown

end Funge
