import Funge.Text.Decimal

/-!
# Command line arguments

The program has two commands, `run` and `grid`, each for one file, and it explains itself. Arguments
are read from left to right, and what comes first decides: a mistake, or a wish for help. Options
can stand before or after the file. An option with a value takes the next argument, unless that
looks like an option, or what follows `=` in its own; after a lone `--` every argument is a file.
No option may be given twice.
-/

namespace Funge.Command

/-- What help can be asked about. -/
inductive Topic where
  | program
  | run
  | grid
  | help
deriving DecidableEq, Repr

/-- What the arguments ask for. -/
inductive Request where
  /-- Run the program in a file. -/
  | run (file : String) (seed budget : Option UInt64) (trace : Bool)
  /-- Show the playfield in a file. -/
  | grid (file : String) (json : Bool)
  | help (topic : Topic)
  | version
deriving DecidableEq, Repr

/-- Why arguments ask for nothing. -/
inductive UsageFault where
  | missingCommand
  | unknownCommand (text : String)
  | unexpected (argument : String)
  | missingValue (option : String)
  | superfluousValue (option : String)
  | invalidValue (option value : String)
  | repeated (option : String)
  | missingFile
deriving DecidableEq, Repr

/-- What to tell about a mistake in the arguments. -/
def UsageFault.message : UsageFault → String
  | missingCommand => "a command is required"
  | unknownCommand text => s!"unrecognized subcommand '{text}'"
  | unexpected argument => s!"unexpected argument '{argument}' found"
  | missingValue option => s!"a value is required for '{option}' but none was supplied"
  | superfluousValue option => s!"unexpected value for '{option}' found"
  | invalidValue option value => s!"invalid value '{value}' for '{option}'"
  | repeated option => s!"the argument '{option}' cannot be used multiple times"
  | missingFile => "the required argument <FILE> was not provided"

/-- An argument by its form. -/
inductive Word where
  /-- The mark after which there are no options. -/
  | endOfOptions
  /-- An option with a long name, with the value after its equals sign. -/
  | long (name : String) (value : Option String)
  /-- Options with one-letter names, by the first of them. -/
  | short (name : Char)
  /-- Anything else, a single hyphen included. -/
  | plain (text : String)
deriving DecidableEq, Repr

/-- The form of an argument. -/
def Word.ofString (argument : String) : Word :=
  match argument.toList with
  | ['-', '-'] => endOfOptions
  | '-' :: '-' :: text =>
    let name := String.ofList (text.takeWhile (· ≠ '='))
    match text.dropWhile (· ≠ '=') with
    | [] => long name none
    | _ :: value => long name (some (String.ofList value))
  | '-' :: c :: _ => short c
  | _ => plain argument

/-- An argument that is no option and no end of options. -/
def isPlain (argument : String) : Bool :=
  match Word.ofString argument with
  | .plain _ => true
  | _ => false

/-- What was read so far of a command's arguments: its file, the numbers and the marks given. -/
structure Given where
  file : Option String := none
  numbers : List (String × UInt64) := []
  marks : List String := []
deriving DecidableEq, Repr

/-- The options of a command: those with a number, and those that are mere marks. -/
structure Options where
  numbers : List String
  marks : List String
deriving DecidableEq, Repr

namespace Given

/-- Take an argument as the file. -/
def withFile (g : Given) (text : String) : Except UsageFault Given :=
  if g.file.isSome then .error (.unexpected text)
  else if text = "" then .error .missingFile
  else .ok { g with file := some text }

/-- Take an option with a value. -/
def withNumber (g : Given) (name value : String) : Except UsageFault Given :=
  match Decimal.toUInt64? value.toList with
  | none => .error (.invalidValue name value)
  | some n =>
    if (g.numbers.lookup name).isSome then .error (.repeated name)
    else .ok { g with numbers := (name, n) :: g.numbers }

/-- Take a mark. -/
def withMark (g : Given) (name : String) : Except UsageFault Given :=
  if g.marks.contains name then .error (.repeated name)
  else .ok { g with marks := name :: g.marks }

end Given

/-- Read the arguments of a command; `none` as soon as help is asked for. -/
def Options.read (options : Options) : Given → List String → Except UsageFault (Option Given)
  | g, [] => .ok (some g)
  | g, argument :: rest =>
    match Word.ofString argument with
    | .endOfOptions => (rest.foldlM Given.withFile g).map some
    | .plain text => do options.read (← g.withFile text) rest
    | .short c => if c = 'h' then .ok none else .error (.unexpected argument)
    | .long name (some value) =>
      if options.numbers.contains name then do options.read (← g.withNumber name value) rest
      else if options.marks.contains name ∨ name = "help" then .error (.superfluousValue name)
      else .error (.unexpected argument)
    | .long name none =>
      if name = "help" then .ok none
      else if options.marks.contains name then do options.read (← g.withMark name) rest
      else if options.numbers.contains name then
        match rest with
        | value :: rest =>
          if isPlain value then do options.read (← g.withNumber name value) rest
          else .error (.missingValue name)
        | [] => .error (.missingValue name)
      else .error (.unexpected argument)

/-- The options of `run`. -/
def runOptions : Options := ⟨["seed", "max-steps"], ["trace"]⟩

/-- The options of `grid`. -/
def gridOptions : Options := ⟨[], ["json"]⟩

namespace Request

/-- The file a request is about. -/
def file? : Request → Option String
  | run file .. => some file
  | grid file _ => some file
  | _ => none

/-- What the arguments of `run` ask for. -/
def ofRunArguments (arguments : List String) : Except UsageFault Request := do
  match ← runOptions.read {} arguments with
  | none => .ok (help .run)
  | some g =>
    match g.file with
    | none => .error .missingFile
    | some file =>
      .ok (run file (g.numbers.lookup "seed") (g.numbers.lookup "max-steps")
        (g.marks.contains "trace"))

/-- What the arguments of `grid` ask for. -/
def ofGridArguments (arguments : List String) : Except UsageFault Request := do
  match ← gridOptions.read {} arguments with
  | none => .ok (help .grid)
  | some g =>
    match g.file with
    | none => .error .missingFile
    | some file => .ok (grid file (g.marks.contains "json"))

/-- What the arguments of `help` ask for. -/
def ofHelpArguments : List String → Except UsageFault Request
  | [] => .ok (help .program)
  | ["run"] => .ok (help .run)
  | ["grid"] => .ok (help .grid)
  | ["help"] => .ok (help .help)
  | [text] => .error (.unknownCommand text)
  | name :: text :: _ =>
    .error (.unknownCommand (if ["run", "grid", "help"].contains name then text else name))

/-- What the arguments of the program ask for. -/
def ofArguments : List String → Except UsageFault Request
  | [] => .error .missingCommand
  | argument :: rest =>
    match Word.ofString argument with
    | .endOfOptions => .error .missingCommand
    | .long "help" none => .ok (help .program)
    | .long "version" none => .ok version
    | .long _ _ => .error (.unexpected argument)
    | .short 'h' => .ok (help .program)
    | .short 'V' => .ok version
    | .short _ => .error (.unexpected argument)
    | .plain "run" => ofRunArguments rest
    | .plain "grid" => ofGridArguments rest
    | .plain "help" => ofHelpArguments rest
    | .plain text => .error (.unknownCommand text)

end Request

end Funge.Command
