import Funge.Console
import Funge.Proofs.Memory
import Funge.Proofs.Observation

/-!
# Output that is cut short

A sink with room for so many bytes takes the first ones of the output and then refuses; a write that
goes past its end leaves what fits. `Console.limitedTo` puts such a sink under a console that takes
everything. A step that stays within the limit does not notice, and the one that goes past it fails
where it is and changes nothing else (`Machine.step_limitedTo`), so the two runs go together up to
the first write that does not fit.
-/

namespace Funge

/-! ### Sinks and consoles with a limit -/

namespace Sink

/-- A sink that takes all output and passes it on. -/
structure Open (sink : Sink) : Prop where
  unlimited : sink.capacity = none
  passing : sink.stuck = false

/-- The sink that takes no more than a number of bytes: the first ones. -/
def limitedTo (sink : Sink) (n : Nat) : Sink :=
  { sink with taken := (sink.taken.toList.take n).toArray, capacity := some n }

variable {sink : Sink} {n : Nat}

theorem write_of_fits (hpass : sink.stuck = false) {bytes : List UInt8}
    (hfit : bytes.length ≤ sink.room bytes.length) :
    sink.write bytes = (.ok (), { sink with taken := sink.taken ++ bytes }) := by
  rw [write, if_neg (Nat.not_lt_of_le hfit), hpass, List.take_of_length_le hfit]
  rfl

theorem write_of_overflows {bytes : List UInt8} (h : sink.room bytes.length < bytes.length) :
    sink.write bytes = (.error ⟨"closed"⟩,
      { sink with taken := sink.taken ++ bytes.take (sink.room bytes.length) }) := by
  rw [write, if_pos h]

theorem Open.write_eq (h : sink.Open) (bytes : List UInt8) :
    sink.write bytes = (.ok (), { sink with taken := sink.taken ++ bytes }) := by
  refine write_of_fits h.passing ?_
  simp only [room, h.unlimited, Nat.le_refl]

theorem size_append (sink : Sink) (bytes : List UInt8) :
    (sink.taken ++ bytes).size = sink.taken.size + bytes.length := by
  rw [← Array.length_toList, Array.toList_appendList, List.length_append, Array.length_toList]

theorem room_limitedTo (h : sink.taken.size ≤ n) (count : Nat) :
    (sink.limitedTo n).room count = min count (n - sink.taken.size) := by
  change min count (n - (sink.taken.toList.take n).length) = _
  rw [List.take_of_length_le h, Array.length_toList]

/-- What a limit leaves of more output is what was taken before, and what there is room for. -/
theorem limitedTo_append (sink : Sink) (n : Nat) (bytes : List UInt8) :
    ({ sink with taken := sink.taken ++ bytes } : Sink).limitedTo n =
      { sink.limitedTo n with
        taken := (sink.limitedTo n).taken ++ bytes.take (n - sink.taken.size) } := by
  have htaken : (sink.taken ++ bytes).toList.take n =
      ((sink.limitedTo n).taken ++ bytes.take (n - sink.taken.size)).toList := by
    rw [Array.toList_appendList, Array.toList_appendList, List.take_append]
    rfl
  rw [limitedTo, htaken]
  rfl

/-- Output within the limit is taken as it would be without one. -/
theorem Open.write_limitedTo (h : sink.Open) {bytes : List UInt8}
    (hfit : (sink.write bytes).2.taken.size ≤ n) :
    (sink.limitedTo n).write bytes = (.ok (), (sink.write bytes).2.limitedTo n) := by
  rw [h.write_eq] at hfit ⊢
  rw [size_append] at hfit
  have hroom : sink.taken.size ≤ n := by omega
  have hpass : (sink.limitedTo n).stuck = false := h.passing
  rw [limitedTo_append, List.take_of_length_le (by omega)]
  refine write_of_fits hpass ?_
  rw [room_limitedTo hroom]
  omega

/-- Of output that goes past the limit, what fits is taken. -/
theorem Open.write_limitedTo_of_overflows (h : sink.Open) {bytes : List UInt8}
    (hroom : sink.taken.size ≤ n) (hover : n < (sink.write bytes).2.taken.size) :
    (sink.limitedTo n).write bytes =
      (.error ⟨"closed"⟩, (sink.write bytes).2.limitedTo n) := by
  rw [h.write_eq] at hover ⊢
  rw [size_append] at hover
  have hmin : (sink.limitedTo n).room bytes.length = n - sink.taken.size := by
    rw [room_limitedTo hroom]
    omega
  rw [limitedTo_append, write_of_overflows (by omega), hmin]

end Sink

/-- The bytes a console writes for a value in a form. -/
def Format.bytes : Format → Int64 → List UInt8
  | integer, v => Utf8.encode (Decimal.print v.toInt ++ [' '])
  | char, v => Utf8.encode [CodePoint.shown v]

namespace Console

/-- The console with its output going to another sink. -/
def onto (c : Console) (sink : Sink) : Console := { c with sink := sink }

/-- The console whose sink takes no more than a number of bytes. -/
def limitedTo (c : Console) (n : Nat) : Console := c.onto (c.sink.limitedTo n)

variable {c : Console} {format : Format} {v : Int64} {n : Nat}

theorem nextLine_onto (c : Console) (sink : Sink) :
    (c.onto sink).nextLine = (c.nextLine.1, c.nextLine.2.onto sink) := by
  change nextLine ⟨c.unread, c.pending, sink⟩ = _
  unfold nextLine
  by_cases hend : (Lines.cut 10 c.unread).1.isEmpty
  · simp only [hend, if_true]
    rfl
  · simp only [hend]
    cases Utf8.decode? (Lines.cut 10 c.unread).1 with
    | none => rfl
    | some text => rfl

theorem readInteger_onto (c : Console) (sink : Sink) :
    (c.onto sink).readInteger = (c.readInteger.1, c.readInteger.2.onto sink) := by
  have hnext := nextLine_onto { c with pending := [] } sink
  unfold readInteger
  by_cases hblank : Blank.trim c.pending = []
  · rw [if_pos hblank]
    refine (if_pos hblank).trans ?_
    rw [show ({ c.onto sink with pending := [] } : Console).nextLine = _ from hnext]
  · rw [if_neg hblank]
    exact if_neg hblank

theorem readChar_onto (c : Console) (sink : Sink) :
    (c.onto sink).readChar = (c.readChar.1, c.readChar.2.onto sink) := by
  have hnext := nextLine_onto c sink
  have hpending : (c.onto sink).pending = c.pending := rfl
  unfold readChar
  rw [hpending]
  cases c.pending with
  | cons char pending => rfl
  | nil =>
      simp only [hnext]
      rcases c.nextLine with ⟨_ | _ | ⟨char, pending⟩, after⟩
      all_goals rfl

/-- Reading has nothing to do with the sink. -/
theorem read_onto (format : Format) (c : Console) (sink : Sink) :
    format.read (c.onto sink) = ((format.read c).1, (format.read c).2.onto sink) := by
  cases format with
  | integer => exact readInteger_onto c sink
  | char => exact readChar_onto c sink

theorem sink_read (format : Format) (c : Console) : (format.read c).2.sink = c.sink :=
  congrArg (fun answer => answer.2.sink) (read_onto format c c.sink)

theorem read_limitedTo (format : Format) (c : Console) (n : Nat) :
    format.read (c.limitedTo n) = ((format.read c).1, (format.read c).2.limitedTo n) := by
  rw [limitedTo, read_onto, limitedTo, sink_read]

theorem write_onto (format : Format) (v : Int64) (c : Console) (sink : Sink) :
    format.write v (c.onto sink) =
      ((sink.write (format.bytes v)).1, c.onto (sink.write (format.bytes v)).2) := by
  cases format with
  | integer => rfl
  | char => rfl

theorem write_eq (format : Format) (v : Int64) (c : Console) :
    format.write v c =
      ((c.sink.write (format.bytes v)).1, c.onto (c.sink.write (format.bytes v)).2) :=
  write_onto format v c c.sink

theorem write_of_open (h : c.sink.Open) (format : Format) (v : Int64) :
    format.write v c =
      (.ok (), c.onto { c.sink with taken := c.sink.taken ++ format.bytes v }) := by
  rw [write_eq, h.write_eq]

theorem write_limitedTo (h : c.sink.Open) (hfit : (format.write v c).2.written.length ≤ n) :
    format.write v (c.limitedTo n) = (.ok (), (format.write v c).2.limitedTo n) := by
  rw [write_eq format v c] at hfit ⊢
  rw [limitedTo, write_onto, h.write_limitedTo hfit]
  rfl

theorem write_limitedTo_of_overflows (h : c.sink.Open) (hroom : c.written.length ≤ n)
    (hover : n < (format.write v c).2.written.length) :
    format.write v (c.limitedTo n) =
      (.error ⟨"closed"⟩, (format.write v c).2.limitedTo n) := by
  rw [write_eq format v c] at hover ⊢
  rw [limitedTo, write_onto, h.write_limitedTo_of_overflows hroom hover]
  rfl

/-- On an open sink a host call leaves an open sink, and adds to the output at most. -/
theorem open_after (h : c.sink.Open) (call : HostCall) :
    (call.after c).sink.Open ∧ c.written <+: (call.after c).written := by
  cases call with
  | read format =>
      have hsink : (format.read c).2.sink = c.sink := sink_read format c
      rw [HostCall.after, written, written, hsink]
      exact ⟨h, List.prefix_refl _⟩
  | write format v =>
      rw [HostCall.after, write_of_open h]
      refine ⟨⟨h.unlimited, h.passing⟩, format.bytes v, ?_⟩
      exact Array.toList_appendList.symm

end Console

namespace Machine

open Console (ofInput)

variable {m : Machine} {c : Console} {n : Nat}

/-! ### One step -/

/-- A step on an open sink leaves it open, and adds to the output at most. -/
theorem open_step (h : c.sink.Open) (m : Machine) :
    (m.step c).2.sink.Open ∧ c.written <+: (m.step c).2.written := by
  rw [step_host]
  cases m.hostCall? with
  | none => exact ⟨h, List.prefix_refl _⟩
  | some call => exact Console.open_after h call

/-- The only instructions with an effect that writes are the two that write. -/
theorem carriesOut_output_of_effect {cell : Cell} {format : Format} {v : Int64}
    (hdue : m.due? = some cell) (h : m.effect cell = .output format v) :
    m.CarriesOut .outputInteger ∨ m.CarriesOut .outputChar := by
  have hkind : (m.effect cell).faultKind? = some .output := by rw [h]; rfl
  obtain ⟨hmode, i, hmem, rfl⟩ := Cell.exists_culprit hkind
  rcases List.mem_cons.mp hmem with rfl | hmem
  · exact .inl ⟨hmode, hdue⟩
  · obtain rfl := List.mem_singleton.mp hmem
    exact .inr ⟨hmode, hdue⟩

theorem receive_limitedTo (m : Machine) (c : Console) (n : Nat) (format : Format) :
    m.receive (c.limitedTo n) format.read =
      ((m.receive c format.read).1, (m.receive c format.read).2.limitedTo n) := by
  rw [receive_eq, receive_eq, Console.read_limitedTo]

/-- What a limit can do to an effect: nothing, if the output stays within it, or else fail what
writes. -/
theorem apply_limitedTo (h : c.sink.Open) (hroom : c.written.length ≤ n) (m : Machine)
    (e : Effect) :
    ((m.apply c e).2.written.length ≤ n ∧
      m.apply (c.limitedTo n) e = ((m.apply c e).1, (m.apply c e).2.limitedTo n)) ∨
    (n < (m.apply c e).2.written.length ∧ (∃ format v, e = .output format v) ∧
      (m.apply c e).1 = m ∧
      m.apply (c.limitedTo n) e =
        (m.failHere (.output ⟨"closed"⟩), (m.apply c e).2.limitedTo n)) := by
  cases e with
  | output format v =>
      have happly : m.apply c (.output format v) = (m, (format.write v c).2) := by
        change m.deliver c (format.write v) = _
        rw [deliver_eq, Console.write_of_open h]
      rw [happly]
      by_cases hfit : (format.write v c).2.written.length ≤ n
      · refine .inl ⟨hfit, ?_⟩
        change m.deliver (c.limitedTo n) (format.write v) = _
        rw [deliver_eq, Console.write_limitedTo h hfit]
      · have hover : n < (format.write v c).2.written.length := Nat.lt_of_not_le hfit
        refine .inr ⟨hover, ⟨format, v, rfl⟩, rfl, ?_⟩
        change m.deliver (c.limitedTo n) (format.write v) = _
        rw [deliver_eq, Console.write_limitedTo_of_overflows h hroom hover]
  | input format =>
      have hsink : (m.receive c format.read).2.sink = c.sink := by
        rw [receive_eq, Console.sink_read]
      refine .inl ⟨?_, m.receive_limitedTo c n format⟩
      change (m.receive c format.read).2.sink.taken.size ≤ n
      rw [hsink]
      exact hroom
  | _ => exact .inl ⟨hroom, rfl⟩

/-- What a limit can do to a step: nothing, if the output stays within it, or else the step fails
where it is, and nothing else is different. -/
theorem step_limitedTo (h : c.sink.Open) (hroom : c.written.length ≤ n) (m : Machine) :
    ((m.step c).2.written.length ≤ n ∧
      m.step (c.limitedTo n) = ((m.step c).1, (m.step c).2.limitedTo n)) ∨
    (n < (m.step c).2.written.length ∧
      (m.CarriesOut .outputInteger ∨ m.CarriesOut .outputChar) ∧
      m.step (c.limitedTo n) =
        ({ (m.step c).1 with position := m.position }.failHere (.output ⟨"closed"⟩),
          (m.step c).2.limitedTo n)) := by
  obtain ⟨hrun, -, hs⟩ | ⟨hrun, -, cause, hf, hs⟩ | ⟨hrun, cell, hdue, hf, hs⟩ := m.step_cases c
  · rw [hs, step_of_not_running hrun]
    exact .inl ⟨hroom, rfl⟩
  · rw [hs, step_of_fetch_error hrun hf]
    exact .inl ⟨hroom, rfl⟩
  · rw [hs, step_of_fetch_ok hrun hf]
    obtain ⟨hfit, happly⟩ | ⟨hover, ⟨format, v, he⟩, hm, happly⟩ :=
      apply_limitedTo h hroom (m.begin cell) (m.effect cell)
    · rw [happly]
      exact .inl ⟨hfit, rfl⟩
    · refine .inr ⟨hover, carriesOut_output_of_effect hdue he, ?_⟩
      rw [happly, hm, settle_of_failed rfl]
      rfl

/-! ### Runs -/

theorem open_stepN (h : c.sink.Open) (k : Nat) (m : Machine) :
    (stepN k m c).2.sink.Open ∧ c.written <+: (stepN k m c).2.written := by
  induction k generalizing m c with
  | zero => exact ⟨h, List.prefix_refl _⟩
  | succ k ih =>
      obtain ⟨hopen, hstep⟩ := open_step h m
      obtain ⟨hopen, hrun⟩ := ih hopen (m.step c).1
      exact ⟨hopen, hstep.trans hrun⟩

/-- The output of a run on an open sink only grows. -/
theorem written_prefix_stepN (h : c.sink.Open) {j k : Nat} (hjk : j ≤ k) (m : Machine) :
    (stepN j m c).2.written <+: (stepN k m c).2.written := by
  obtain ⟨d, rfl⟩ := Nat.exists_eq_add_of_le hjk
  rw [stepN_add]
  exact (open_stepN (open_stepN h j m).1 d _).2

/-- As long as the output stays within a limit, a run does not notice it. -/
theorem stepN_limitedTo (h : c.sink.Open) {k : Nat} {m : Machine}
    (hfit : (stepN k m c).2.written.length ≤ n) :
    answers k m (c.limitedTo n) = answers k m c ∧
      stepN k m (c.limitedTo n) = ((stepN k m c).1, (stepN k m c).2.limitedTo n) := by
  induction k generalizing m c with
  | zero => exact ⟨rfl, rfl⟩
  | succ k ih =>
      -- The output only grows, so what is within the limit at the end was so all along.
      have hroom : c.written.length ≤ n :=
        Nat.le_trans (open_stepN h (k + 1) m).2.length_le hfit
      have hopen : (m.step c).2.sink.Open := (open_step h m).1
      have hnext : (m.step c).2.written.length ≤ n :=
        Nat.le_trans (open_stepN hopen k _).2.length_le hfit
      obtain ⟨-, hs⟩ | ⟨hover, -⟩ := step_limitedTo h hroom m
      · obtain ⟨hanswers, hrun⟩ := ih hopen (m := (m.step c).1) hfit
        rw [answers_succ, answers_succ, stepN_succ, stepN_succ, hs, hanswers, hrun]
        exact ⟨rfl, rfl⟩
      · omega

/-- If the output of a run goes past a limit, there is a first step that goes past it. -/
theorem exists_first_overflow {k : Nat} {m : Machine} (hroom : c.written.length ≤ n)
    (hover : n < (stepN k m c).2.written.length) :
    ∃ j < k, (stepN j m c).2.written.length ≤ n ∧ n < (stepN (j + 1) m c).2.written.length := by
  induction k with
  | zero => exact absurd hroom (Nat.not_le_of_lt hover)
  | succ k ih =>
      by_cases hk : (stepN k m c).2.written.length ≤ n
      · exact ⟨k, Nat.lt_succ_self k, hk, hover⟩
      · obtain ⟨j, hj, hfirst⟩ := ih (Nat.lt_of_not_le hk)
        exact ⟨j, Nat.lt_succ_of_lt hj, hfirst⟩

/-- From the step on that goes past a limit, a run has failed and does not change. -/
theorem stepN_limitedTo_of_overflows (h : c.sink.Open) {j k : Nat} {m : Machine} (hjk : j < k)
    (hfit : (stepN j m c).2.written.length ≤ n)
    (hover : n < (stepN (j + 1) m c).2.written.length) :
    let before := (stepN j m c).1
    let after := stepN (j + 1) m c
    let fault := (Cause.output ⟨"closed"⟩).faultAt before.position
    (before.CarriesOut .outputInteger ∨ before.CarriesOut .outputChar) ∧
    answers k m (c.limitedTo n) = answers j m c ++ List.replicate (k - j) (.error fault) ∧
    stepN k m (c.limitedTo n) =
      ({ after.1 with position := before.position }.failed fault, after.2.limitedTo n) := by
  intro before after fault
  have hopen : (stepN j m c).2.sink.Open := (open_stepN h j m).1
  obtain ⟨hanswers, hrun⟩ := stepN_limitedTo h hfit
  have hafter : before.step (stepN j m c).2 = after := (stepN_add j 1 m c).symm
  obtain ⟨hfit', -⟩ | ⟨-, hcarries, hs⟩ := step_limitedTo hopen hfit before
  · rw [hafter] at hfit'
    exact absurd hfit' (Nat.not_le_of_lt hover)
  · rw [hafter] at hs
    have hended : (before.step ((stepN j m c).2.limitedTo n)).1.status ≠ .running := by
      rw [hs]
      exact fun hrunning => nomatch hrunning
    -- The run that is cut goes along for `j` steps, fails in the next one, and stays so.
    obtain ⟨d, rfl⟩ : ∃ d, k = j + (d + 1) := Nat.exists_eq_add_of_lt hjk
    refine ⟨hcarries, ?_, ?_⟩
    · rw [answers_add, hanswers, hrun, answers_succ, answers_of_not_running hended, hs,
        Nat.add_sub_cancel_left]
      rfl
    · rw [stepN_add, hrun, stepN_succ, stepN_of_not_running hended, hs]
      rfl

/-- A sink with room for a number of bytes cuts the output off there, and changes nothing else. As
long as the output fits, and be it exactly, the run is the one on a sink that takes everything. If it
does not fit, a first step goes past the end, and it carries out an instruction to write. That step
fails on its cell and does otherwise what the step of the other run does, and the machine and the
console stay as they are then. -/
theorem full_sink_cuts_output (f : Playfield) (seed : UInt64) (budget : Option UInt64)
    (input : List UInt8) (n k : Nat) :
    let m := start f seed budget
    let free := fun j => stepN j m (ofInput input {})
    let cut := stepN k m (ofInput input { capacity := some n })
    ((free k).2.written.length ≤ n →
      answers k m (ofInput input { capacity := some n }) = answers k m (ofInput input {}) ∧
      cut.1 = (free k).1 ∧ cut.2.unread = (free k).2.unread ∧
      cut.2.pending = (free k).2.pending ∧ cut.2.written = (free k).2.written) ∧
    (n < (free k).2.written.length → ∃ j < k,
      let before := (free j).1
      let after := free (j + 1)
      let fault := (Cause.output ⟨"closed"⟩).faultAt before.position
      (∀ i ≤ j, (free i).2.written.length ≤ n) ∧ n < after.2.written.length ∧
      (before.CarriesOut .outputInteger ∨ before.CarriesOut .outputChar) ∧
      answers k m (ofInput input { capacity := some n }) =
        answers j m (ofInput input {}) ++ List.replicate (k - j) (.error fault) ∧
      cut.1 = { after.1 with position := before.position }.failed fault ∧
      cut.2.unread = after.2.unread ∧ cut.2.pending = after.2.pending ∧
      cut.2.written = (free k).2.written.take n) := by
  intro m free cut
  have hopen : (ofInput input {}).sink.Open := ⟨rfl, rfl⟩
  have hlimited : ofInput input { capacity := some n } = (ofInput input {}).limitedTo n := by
    change _ = Console.onto _ { taken := (List.take n []).toArray, capacity := some n }
    rw [List.take_nil]
    rfl
  refine ⟨?_, ?_⟩
  · intro hfit
    obtain ⟨hanswers, hrun⟩ := stepN_limitedTo hopen hfit
    rw [← hlimited] at hanswers hrun
    have hcut : cut = ((free k).1, (free k).2.limitedTo n) := hrun
    refine ⟨hanswers, ?_⟩
    rw [hcut]
    exact ⟨rfl, rfl, rfl, List.take_of_length_le hfit⟩
  · intro hover
    obtain ⟨j, hj, hfit, hfirst⟩ := exists_first_overflow (Nat.zero_le n) hover
    obtain ⟨hcarries, hanswers, hrun⟩ := stepN_limitedTo_of_overflows hopen hj hfit hfirst
    rw [← hlimited] at hanswers hrun
    refine ⟨j, hj, ?_, hfirst, hcarries, hanswers, ?_⟩
    · intro i hi
      exact Nat.le_trans (written_prefix_stepN hopen hi m).length_le hfit
    · have hcut : cut = _ := hrun
      obtain ⟨later, hlater⟩ := written_prefix_stepN hopen hj m
      rw [hcut, ← hlater, List.take_append_of_le_length (Nat.le_of_lt hfirst)]
      exact ⟨rfl, rfl, rfl, rfl⟩

/-- A number is written with a space after it. Where only the space does not fit, the digits stand
and the write fails all the same. -/
example :
    let f : Playfield := ⟨1, 3, #[.digit 7, .instruction .outputInteger, .instruction .halt],
      by decide, by decide, rfl⟩
    let cut := fun n => stepN 3 (start f 0 none) (ofInput [] { capacity := some n })
    (cut 2).1.state = .halted ∧ (cut 2).2.written = [55, 32] ∧
      (cut 1).1.error = some ((Cause.output ⟨"closed"⟩).faultAt ⟨0, 1⟩) ∧
      (cut 1).2.written = [55] := by
  decide

end Machine

end Funge
