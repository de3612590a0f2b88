import Funge.Command
import Funge.Proofs.Completion

/-!
# A command line runs a program file

A command line that asks for the run of a file does what the loop `Machine.Completes` does on the
playfield in that file, with the standard streams for a console, and adds nothing to its output. It
exits as soon as the loop returns and not otherwise (`exits_iff_of_begin_ok`). What goes wrong
before the run, and what ended it, is told by the exit code and on standard error only.

The argument parser reads options in any order and in two spellings. What is said here of a run
holds of all arguments that ask for it, and the ones of the manual are among them
(`ofArguments_runArguments`).
-/

namespace Funge

/-! ### Texts in files -/

namespace SourceFile

variable {file : SourceFile} {source : String}

/-- A file holds a text if it can be read and its bytes are the text in UTF-8. -/
def Holds (file : SourceFile) (source : String) : Prop :=
  file = .bytes (Utf8.encode source.toList)

theorem text_eq_ok_iff : file.text = .ok source ↔ file.Holds source := by
  cases file with
  | unreadable fault => exact ⟨nofun, nofun⟩
  | bytes content =>
      rw [Holds, bytes.injEq, ← Utf8.decode?_eq_some_iff, text]
      cases Utf8.decode? content with
      | none => exact ⟨nofun, nofun⟩
      | some cs =>
          rw [Except.ok.injEq, Option.some.injEq, ← String.toList_inj, String.toList_ofList]

theorem exists_text_eq_error_iff :
    (∃ fault, file.text = .error fault) ↔ ∀ source, ¬ file.Holds source := by
  simp only [← text_eq_ok_iff]
  cases file.text with
  | error fault => exact ⟨fun _ => nofun, fun _ => ⟨fault, rfl⟩⟩
  | ok source => exact ⟨nofun, fun h => absurd rfl (h source)⟩

end SourceFile

/-! ### A log that is not wanted -/

theorem Filter.log_eq_empty {filter : Filter} (h : ∀ event, filter.passes event = false)
    (time : String) (events : List Event) : filter.log time events = "" := by
  have hnone : events.filter filter.passes = [] :=
    List.filter_eq_nil_iff.mpr fun event _ => Bool.eq_false_iff.mp (h event)
  rw [log, hnone]
  rfl

theorem Filter.passes_quiet (event : Event) : quiet.passes event = false := by
  cases event <;> rfl

namespace Command

/-- Nothing that happens is logged, as when no rules are set (`silent_of_logRules`). -/
def Surroundings.Silent (s : Surroundings) : Prop := ∀ event, (filterFor s).passes event = false

theorem Surroundings.silent_of_logRules {s : Surroundings} (h : s.logRules = none) : s.Silent := by
  intro event
  rw [filterFor, h]
  exact Filter.passes_quiet event

/-! ### Reading the arguments -/

/-- The arguments that run a file with a seed and a budget. -/
def runArguments (file : String) (seed : UInt64) (budget : Option UInt64) : List String :=
  "run" :: file :: "--seed" :: toString seed ::
    match budget with
    | none => []
    | some limit => ["--max-steps", toString limit]

/-- The arguments that show a file. -/
def gridArguments (file : String) : List String := ["grid", file]

/-- A printed number is a digit and more digits. -/
theorem exists_digits (n : UInt64) : ∃ digit rest, (toString n).toList = digit :: rest ∧
    digit.isDigit = true ∧ Decimal.toNat? (digit :: rest) = some n.toNat := by
  have hdigits : (toString n).toList = Nat.toDigits 10 n.toNat := Nat.toList_repr
  have hread := Decimal.toNat?_toDigits n.toNat
  cases hchars : Nat.toDigits 10 n.toNat with
  | nil => exact absurd hchars Nat.toDigits_ne_nil
  | cons digit rest =>
      have hmem : digit ∈ Nat.toDigits 10 n.toNat := hchars ▸ List.mem_cons_self
      refine ⟨digit, rest, hdigits.trans hchars, ?_, hchars ▸ hread⟩
      exact Nat.isDigit_of_mem_toDigits (by decide) (by decide) hmem

theorem toUInt64?_toString (n : UInt64) : Decimal.toUInt64? (toString n).toList = some n := by
  obtain ⟨digit, rest, hchars, hdigit, hread⟩ := exists_digits n
  have hsign : digit ≠ '+' := by
    rintro rfl
    cases hdigit
  rw [hchars, Decimal.toUInt64?]
  · simp [hread, UInt64.toNat_lt_size]
  · rintro _ ⟨⟩
    exact hsign rfl

/-- Arguments that do not begin with a hyphen are plain. -/
theorem ofString_of_head {argument : String} {c : Char} {rest : List Char}
    (h : argument.toList = c :: rest) (hc : c ≠ '-') :
    Word.ofString argument = .plain argument := by
  unfold Word.ofString
  rw [h]
  split
  · next heq => exact absurd (List.cons.inj heq).1 hc
  · next heq => exact absurd (List.cons.inj heq).1 hc
  · next heq => exact absurd (List.cons.inj heq).1 hc
  · rfl

theorem isPlain_toString (n : UInt64) : isPlain (toString n) = true := by
  obtain ⟨digit, rest, hchars, hdigit, -⟩ := exists_digits n
  have hhyphen : digit ≠ '-' := by
    rintro rfl
    cases hdigit
  rw [isPlain, ofString_of_head hchars hhyphen]

theorem ofString_of_isPlain {argument : String} (h : isPlain argument = true) :
    Word.ofString argument = .plain argument := by
  rw [isPlain] at h
  split at h
  · next text hword =>
    rw [hword]
    unfold Word.ofString at hword
    split at hword
    · cases hword
    · split at hword <;> cases hword
    · cases hword
    · exact hword.symm
  · cases h

namespace Options

variable {options : Options} {g g' : Given} {rest : List String}

/-- A plain argument is the file. -/
theorem read_plain {argument : String} (h : isPlain argument = true)
    (hfile : g.withFile argument = .ok g') :
    options.read g (argument :: rest) = options.read g' rest := by
  simp only [read, ofString_of_isPlain h, hfile]
  rfl

/-- An option with a value takes the next argument, which is the number that was printed there. -/
theorem read_number {argument name : String} (h : Word.ofString argument = .long name none)
    (hmark : name ≠ "help" ∧ options.marks.contains name = false)
    (hname : options.numbers.contains name = true) (hfirst : g.numbers.lookup name = none)
    (n : UInt64) :
    options.read g (argument :: toString n :: rest) =
      options.read { g with numbers := (name, n) :: g.numbers } rest := by
  have hnumber : g.withNumber name (toString n) =
      .ok { g with numbers := (name, n) :: g.numbers } := by
    simp [Given.withNumber, toUInt64?_toString, hfirst]
  simp only [read, h, hmark, hname, isPlain_toString, hnumber, if_true, if_false,
    Bool.false_eq_true]
  rfl

end Options

variable {file : String}

theorem withFile_empty (hne : file ≠ "") :
    ({} : Given).withFile file = .ok { file := some file } := by
  simp [Given.withFile, hne]

theorem ofArguments_runArguments (hfile : isPlain file = true) (hne : file ≠ "") (seed : UInt64)
    (budget : Option UInt64) :
    Request.ofArguments (runArguments file seed budget) =
      .ok (.run file (some seed) budget false) := by
  have hseed : Word.ofString "--seed" = .long "seed" none := by decide
  have hsteps : Word.ofString "--max-steps" = .long "max-steps" none := by decide
  have hread (rest : List String) : runOptions.read {} (file :: "--seed" :: toString seed :: rest) =
      runOptions.read ⟨some file, [("seed", seed)], []⟩ rest :=
    calc runOptions.read {} (file :: "--seed" :: toString seed :: rest)
        = runOptions.read ⟨some file, [], []⟩ ("--seed" :: toString seed :: rest) :=
          Options.read_plain hfile (withFile_empty hne)
      _ = runOptions.read ⟨some file, [("seed", seed)], []⟩ rest :=
          Options.read_number hseed (by decide) (by decide) rfl seed
  have hcommand (rest : List String) :
      Request.ofArguments ("run" :: rest) = Request.ofRunArguments rest := rfl
  cases budget with
  | none =>
      simp only [runArguments, hcommand, Request.ofRunArguments, hread]
      rfl
  | some limit =>
      have hbudget : runOptions.read ⟨some file, [("seed", seed)], []⟩
          ["--max-steps", toString limit] =
            runOptions.read ⟨some file, [("max-steps", limit), ("seed", seed)], []⟩ [] :=
        Options.read_number hsteps (by decide) (by decide) rfl limit
      simp only [runArguments, hcommand, Request.ofRunArguments, hread, hbudget]
      rfl

theorem ofArguments_gridArguments (hfile : isPlain file = true) (hne : file ≠ "") :
    Request.ofArguments (gridArguments file) = .ok (.grid file false) := by
  have hcommand (rest : List String) :
      Request.ofArguments ("grid" :: rest) = Request.ofGridArguments rest := rfl
  have hread : gridOptions.read {} [file] = gridOptions.read ⟨some file, [], []⟩ [] :=
    Options.read_plain hfile (withFile_empty hne)
  simp only [gridArguments, hcommand, Request.ofGridArguments, hread]
  rfl

/-! ### How a command line exits -/

/-- The program exits for some arguments with an outcome. -/
def Exits (arguments : List String) (s : Surroundings) (outcome : Outcome) : Prop :=
  ∃ fuel, perform fuel arguments s = some outcome

variable {arguments : List String} {s : Surroundings} {source : String} {f : Playfield}
  {seed : UInt64} {budget : Option UInt64} {outcome : Outcome} {task : Task}

theorem exits_iff_of_begin_error {instead : Outcome} (h : begin arguments s = .error instead) :
    Exits arguments s outcome ↔ outcome = instead := by
  simp only [Exits, perform, h, Option.some.injEq, exists_const, eq_comm]

/-- A task to run exits as soon as the loop returns, and if it never does, not at all. -/
theorem exits_iff_of_begin_ok (h : begin arguments s = .ok task) :
    Exits arguments s outcome ↔ ∃ call, Machine.Completes task.machine task.console call ∧
      outcome = task.outcome s.time call := by
  simp only [Exits, perform, h, Task.run, Option.map_eq_some_iff, Machine.completes_iff_callRun]
  constructor
  · rintro ⟨fuel, call, hcall, rfl⟩
    exact ⟨call, ⟨fuel, hcall⟩, rfl⟩
  · rintro ⟨call, ⟨fuel, hcall⟩, rfl⟩
    exact ⟨fuel, call, hcall, rfl⟩

/-- Arguments have one outcome at most. -/
theorem Exits.unique {outcome' : Outcome} (h : Exits arguments s outcome)
    (h' : Exits arguments s outcome') : outcome' = outcome := by
  cases hbegin : begin arguments s with
  | error instead =>
      rw [exits_iff_of_begin_error hbegin] at h h'
      exact h'.trans h.symm
  | ok task =>
      rw [exits_iff_of_begin_ok hbegin] at h h'
      obtain ⟨call, hcompletes, rfl⟩ := h
      obtain ⟨call', hcompletes', rfl⟩ := h'
      rw [hcompletes.unique hcompletes']

/-! ### Arguments about a file -/

/-- Arguments that are about a file exit without a word on standard output where the file cannot be
loaded. The code tells whether the file holds a text. -/
structure LoadsFirst (arguments : List String) (s : Surroundings) (file : String) : Prop where
  noText : (∀ source, ¬ (s.files file).Holds source) → ∃ fault, (s.files file).text = .error fault ∧
    Exits arguments s ⟨74, [], s!"unable to read source file '{file}': {fault.message}\n"⟩
  code : ∀ outcome, Exits arguments s outcome →
    (outcome.code = 74 ↔ ∀ source, ¬ (s.files file).Holds source)
  empty : ∀ source, (s.files file).Holds source → Playfield.ofSource? source = none →
    Exits arguments s ⟨1, [], s!"Error: {file}: {LoadFault.empty.message}\n"⟩

/-- An outcome tells how the run of the text in a file has ended. -/
structure Tells (s : Surroundings) (file source : String) (call : Call Machine Console Unit)
    (outcome : Outcome) : Prop where
  stdout : outcome.stdout = call.host.written
  success : outcome.code = 0 ↔ call.machine.state = .halted
  failure : outcome.code = 1 ↔ ∃ fault, call.answer = .error fault
  silence : s.Silent → call.machine.state = .halted → outcome.stderr = ""
  report : s.Silent → ∀ fault, call.answer = .error fault →
    outcome.stderr = fault.diagnostic.render file source

/-- Arguments run a file with a seed and a budget: they exit if the loop returns, and only then, and
tell how it ended. -/
structure RunsFile (arguments : List String) (s : Surroundings) (file : String) (seed : UInt64)
    (budget : Option UInt64) : Prop extends LoadsFirst arguments s file where
  exits : ∀ source f call, (s.files file).Holds source →
    Playfield.ofSource? source = some f →
    Machine.Completes (.start f seed budget) (Console.ofInput s.input {}) call →
    ∃ outcome, Exits arguments s outcome ∧ Tells s file source call outcome
  returns : ∀ source f outcome, (s.files file).Holds source → Playfield.ofSource? source = some f →
    Exits arguments s outcome →
    ∃ call, Machine.Completes (.start f seed budget) (Console.ofInput s.input {}) call
  unique : ∀ outcome outcome', Exits arguments s outcome → Exits arguments s outcome' →
    outcome' = outcome

/-- Arguments show a file: the rows of its playfield, and a line feed. -/
structure ShowsFile (arguments : List String) (s : Surroundings) (file : String) : Prop
    extends LoadsFirst arguments s file where
  exits : ∀ source f, (s.files file).Holds source → Playfield.ofSource? source = some f →
    ∃ outcome, Exits arguments s outcome ∧ outcome.code = 0 ∧
      outcome.stdout = Utf8.encode (f.text ++ "\n").toList ∧ (s.Silent → outcome.stderr = "")
  unique : ∀ outcome outcome', Exits arguments s outcome → Exits arguments s outcome' →
    outcome' = outcome

/-! ### Loading the file -/

theorem load_of_text_error {fault : ReadFault} (h : (s.files file).text = .error fault) :
    load s file =
      .error ⟨74, [], s!"unable to read source file '{file}': {fault.message}\n"⟩ := by
  simp only [load, h, Outcome.noInput]

theorem load_of_empty (h : (s.files file).Holds source)
    (hempty : Playfield.ofSource? source = none) :
    load s file = .error ⟨1, [], s!"Error: {file}: {LoadFault.empty.message}\n"⟩ := by
  simp only [load, SourceFile.text_eq_ok_iff.mpr h, hempty, Outcome.failure]

theorem load_of_playfield (h : (s.files file).Holds source)
    (hload : Playfield.ofSource? source = some f) : load s file = .ok (source, f) := by
  simp only [load, SourceFile.text_eq_ok_iff.mpr h, hload]

theorem LoadsFirst.of_load
    (herror : ∀ instead, load s file = .error instead → begin arguments s = .error instead)
    (hok : ∀ source f outcome, load s file = .ok (source, f) → Exits arguments s outcome →
      outcome.code ≠ 74) :
    LoadsFirst arguments s file where
  noText h := by
    obtain ⟨fault, htext⟩ := SourceFile.exists_text_eq_error_iff.mpr h
    exact ⟨fault, htext, (exits_iff_of_begin_error (herror _ (load_of_text_error htext))).mpr rfl⟩
  empty source h hempty :=
    (exits_iff_of_begin_error (herror _ (load_of_empty h hempty))).mpr rfl
  code outcome hexits := by
    constructor
    · intro hcode source hholds
      cases hload : Playfield.ofSource? source with
      | none =>
          have hbegin := herror _ (load_of_empty hholds hload)
          rw [(exits_iff_of_begin_error hbegin).mp hexits] at hcode
          cases hcode
      | some f => exact hok source f outcome (load_of_playfield hholds hload) hexits hcode
    · intro h
      obtain ⟨fault, htext⟩ := SourceFile.exists_text_eq_error_iff.mpr h
      rw [(exits_iff_of_begin_error (herror _ (load_of_text_error htext))).mp hexits]

/-! ### Running and showing it -/

theorem code_outcome_ne_noInput (task : Task) (time : String) (call : Call Machine Console Unit) :
    (task.outcome time call).code ≠ 74 := by
  simp only [Task.outcome, Task.finish]
  cases call.answer with
  | ok _ => exact (by decide : Outcome.success ≠ 74)
  | error fault => exact (by decide : Outcome.failure ≠ 74)

/-- What a task tells when its run has returned. -/
theorem tells_outcome {call : Call Machine Console Unit} {c : Console}
    (h : Machine.Completes (.start f seed budget) c call) :
    Tells s file source call
      ((Task.start s file source f (some seed) budget false).outcome s.time call) := by
  have hsilent (h : s.Silent) (events : List Event) : (filterFor s).log s.time events = "" :=
    Filter.log_eq_empty h s.time events
  have hhalted := h.answer_eq_ok_iff (.start f seed budget)
  cases hanswer : call.answer with
  | ok _ =>
      have hstate : call.machine.state = .halted := hhalted.mp hanswer
      refine ⟨rfl, ?_, ?_, ?_, ?_⟩
      · simp [Task.outcome, Task.finish, hanswer, hstate, Outcome.success]
      · simp [Task.outcome, Task.finish, hanswer, Outcome.success]
      · intro h _
        simp [Task.outcome, Task.start, Task.finish, hanswer, hsilent h]
      · simp [hanswer]
  | error fault =>
      have hstate : call.machine.state ≠ .halted := fun hs => by
        cases hanswer.symm.trans (hhalted.mpr hs)
      refine ⟨rfl, ?_, ?_, ?_, ?_⟩
      · simp [Task.outcome, Task.finish, hanswer, hstate, Outcome.failure]
      · simp [Task.outcome, Task.finish, hanswer, Outcome.failure]
      · exact fun _ hs => absurd hs hstate
      · intro h
        simp [Task.outcome, Task.start, Task.finish, hanswer, hsilent h]

theorem runsFile_of_request
    (h : Request.ofArguments arguments = .ok (.run file (some seed) budget false)) :
    RunsFile arguments s file seed budget := by
  have hbegin : begin arguments s = (load s file).map fun loaded =>
      .start s file loaded.1 loaded.2 (some seed) budget false := by
    simp only [begin, h]
  have hexits {source f} (hload : load s file = .ok (source, f)) (outcome : Outcome) :
      let task := Task.start s file source f (some seed) budget false
      Exits arguments s outcome ↔
        ∃ call, Machine.Completes (.start f seed budget) (Console.ofInput s.input {}) call ∧
          outcome = task.outcome s.time call :=
    exits_iff_of_begin_ok (by rw [hbegin, hload]; rfl)
  refine { toLoadsFirst := .of_load ?_ ?_, exits := ?_, returns := ?_, unique := ?_ }
  · intro instead hload
    rw [hbegin, hload]
    rfl
  · intro source f outcome hload hexit
    obtain ⟨call, -, rfl⟩ := (hexits hload outcome).mp hexit
    exact code_outcome_ne_noInput _ _ call
  · intro source f call hholds hload hcompletes
    exact ⟨_, (hexits (load_of_playfield hholds hload) _).mpr ⟨call, hcompletes, rfl⟩,
      tells_outcome hcompletes⟩
  · intro source f outcome hholds hload hexit
    have hload' := load_of_playfield hholds hload
    obtain ⟨call, hcompletes, -⟩ := (hexits hload' outcome).mp hexit
    exact ⟨call, hcompletes⟩
  · intro outcome outcome' hexit hexit'
    exact hexit.unique hexit'

theorem showsFile_of_request (h : Request.ofArguments arguments = .ok (.grid file false)) :
    ShowsFile arguments s file := by
  have hexits (outcome : Outcome) : Exits arguments s outcome ↔ outcome = showGrid s file false :=
    exits_iff_of_begin_error (by simp only [begin, h])
  have hshown {source f} (hload : load s file = .ok (source, f)) : showGrid s file false =
      ⟨0, Utf8.encode (f.text ++ "\n").toList, (filterFor s).log s.time [f.loadEvent]⟩ := by
    simp only [showGrid, hload]
    rfl
  refine { toLoadsFirst := .of_load ?_ ?_, exits := ?_, unique := ?_ }
  · intro instead hload
    simp only [begin, h, showGrid, hload]
  · intro source f outcome hload hexit
    rw [(hexits outcome).mp hexit, hshown hload]
    exact (by decide : (0 : UInt8) ≠ 74)
  · intro source f hholds hload
    have hshow := hshown (load_of_playfield hholds hload)
    refine ⟨_, (hexits _).mpr rfl, ?_, ?_, fun hsilent => ?_⟩
    · rw [hshow]
    · rw [hshow]
    · rw [hshow]
      exact Filter.log_eq_empty hsilent _ _
  · intro outcome outcome' hexit hexit'
    exact hexit.unique hexit'

/-- The command line runs the machine and does nothing else. Whatever the arguments are that ask for
the run of a file with a seed and perhaps a budget and for no trace, they exit with code 74 if the
file cannot be read or holds no text, with code 1 if the text has no cell, both times with nothing
on standard output, and otherwise exactly if the run of its playfield ends. Then standard output is
what that run has written, code 0 says that it halted and code 1 that it failed, and when nothing is
logged, standard error is empty or the report on the fault. Arguments that ask for a file to be
shown exit in the same two ways, and otherwise with code 0 and the text of the playfield. There are
such arguments for every file name that is not empty and no option. -/
theorem command_line_runs_machine (s : Surroundings) (file : String) (seed : UInt64)
    (budget : Option UInt64) :
    (∀ arguments, Request.ofArguments arguments = .ok (.run file (some seed) budget false) →
      RunsFile arguments s file seed budget) ∧
    (∀ arguments, Request.ofArguments arguments = .ok (.grid file false) →
      ShowsFile arguments s file) ∧
    (file ≠ "" → isPlain file = true →
      Request.ofArguments (runArguments file seed budget) =
        .ok (.run file (some seed) budget false) ∧
      Request.ofArguments (gridArguments file) = .ok (.grid file false)) :=
  ⟨fun _ => runsFile_of_request, fun _ => showsFile_of_request, fun hne hfile =>
    ⟨ofArguments_runArguments hfile hne seed budget, ofArguments_gridArguments hfile hne⟩⟩

/-- What was written before a fault stays written, and the report on the fault goes elsewhere. -/
theorem command_line_runs_machine_until_fault :
    let source := "1./"
    let s : Surroundings := ⟨fun _ => .bytes (Utf8.encode source.toList), [], none, 0, ""⟩
    let fault := Cause.divisionByZero.faultAt ⟨0, 2⟩
    ∃ outcome, Exits (runArguments "a.bf" 7 (some 9)) s outcome ∧
      outcome.stdout = Utf8.encode "1 ".toList ∧ outcome.code = 1 ∧
      outcome.stderr = fault.diagnostic.render "a.bf" source := by
  intro source s fault
  let f : Playfield := ⟨1, 3, #[.digit 1, .instruction .outputInteger, .instruction .divide],
    by decide, by decide, rfl⟩
  obtain ⟨hrun, -, harguments⟩ := command_line_runs_machine s "a.bf" 7 (some 9)
  obtain ⟨hrequest, -⟩ := harguments (by decide) (by decide)
  have hreturns : (Machine.callRun 3 (.start f 7 (some 9)) (Console.ofInput s.input {})).map
      (fun call => (call.answer, call.host.written)) =
        some (.error fault, Utf8.encode "1 ".toList) := by decide
  obtain ⟨call, hcall, hpair⟩ := Option.map_eq_some_iff.mp hreturns
  obtain ⟨hanswer, hwritten⟩ := Prod.mk.inj hpair
  have hcompletes := Machine.completes_iff_callRun.mpr ⟨3, hcall⟩
  obtain ⟨outcome, hexits, htells⟩ :=
    (hrun _ hrequest).exits source f call rfl (by decide) hcompletes
  refine ⟨outcome, hexits, htells.stdout.trans hwritten, htells.failure.mpr ⟨fault, hanswer⟩, ?_⟩
  exact htells.report (Surroundings.silent_of_logRules rfl) fault hanswer

end Command

end Funge
