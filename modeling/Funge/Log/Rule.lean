import Funge.Log.Level
import Funge.Log.Pattern
import Funge.Text.Blank

/-!
# Rules of the log

A rule says up to which level something is logged. It can name the beginning of a target, and in
brackets a span, which is a stretch of a run, and in braces a field: in full `target[span{field}]`,
then `=level`. A level alone is a rule for every target, and a rule without a level lets everything
pass. A field can have a value or a pattern for its value after an equals sign.

`Rule.ofString?` reads a rule from left to right. A blank before the rule, or after it, is not
looked at, but the places of the parts, counted in bytes without the blanks, are then used in the
text with them: a rule that is written after a blank names its parts one place too early.
-/

namespace Funge

/-- A field in a rule, by its name and by what its value should be. -/
structure FieldRule where
  name : String
  value : Option String
deriving DecidableEq, Repr

/-- A rule of a filter: what is logged, and up to which level. -/
structure Rule where
  /-- How the target begins. -/
  target : Option String := none
  /-- The span in which the event happens. -/
  span : Option String := none
  /-- A field that the event has. -/
  field : Option FieldRule := none
  level : Level := .trace
deriving DecidableEq, Repr

namespace FieldRule

/-- Digits with a point in them or around them, at least one. -/
def isMantissa (cs : List Char) : Bool :=
  let whole := cs.takeWhile Char.isDigit
  match cs.dropWhile Char.isDigit with
  | [] => whole ≠ []
  | '.' :: part => part.all Char.isDigit && (whole ≠ [] || part ≠ [])
  | _ => false

/-- Digits after a sign or after none, at least one. -/
def isExponent (cs : List Char) : Bool :=
  let digits := match cs with
    | '+' :: rest | '-' :: rest => rest
    | _ => cs
  digits ≠ [] && digits.all Char.isDigit

/-- A number without a sign: digits with a point and an exponent, infinity, or no number. -/
def isMagnitude (cs : List Char) : Bool :=
  ["INF", "INFINITY", "NAN"].contains (String.ofList (cs.map Char.toUpper)) ||
    match cs.dropWhile fun c => c ≠ 'e' && c ≠ 'E' with
    | [] => isMantissa cs
    | _ :: exponent =>
      isMantissa (cs.takeWhile fun c => c ≠ 'e' && c ≠ 'E') && isExponent exponent

/-- A value is a number or a pattern. A number without a plus sign is a pattern, too. -/
def isValue (cs : List Char) : Bool :=
  Pattern.isPattern cs || match cs with
    | '+' :: rest => isMagnitude rest
    | _ => false

/-- The field a text states: a name, or a name and a value with an equals sign between them. What
follows a second equals sign does not count. -/
def ofChars? (cs : List Char) : Option FieldRule :=
  let name := String.ofList (cs.takeWhile (· ≠ '='))
  match cs, cs.dropWhile (· ≠ '=') with
  | [], _ => none
  | _, [] => some ⟨name, none⟩
  | _, _ :: rest =>
    let value := rest.takeWhile (· ≠ '=')
    if isValue value then some ⟨name, some (String.ofList value)⟩ else none

end FieldRule

namespace Rule

/-- The characters that a level or a target begins with. -/
def isStart (c : Char) : Bool := c = '-' || c = ':' || c = '_' || Alphanumeric.isAlphanumeric c

/-- The characters of a text from one place in it up to another, both counted in bytes. -/
def between (cs : List Char) (start stop : Nat) : List Char :=
  match cs with
  | [] => []
  | c :: rest =>
    if start = 0 then
      if stop = 0 then [] else c :: between rest 0 (stop - c.utf8Size)
    else between rest (start - c.utf8Size) (stop - c.utf8Size)

/-- What of a rule is being read, with the place where it starts. -/
inductive Part where
  | beginning
  /-- A level or a target. -/
  | word (start : Nat)
  | span (start : Nat)
  | field (start : Nat)
  /-- The bracket after the brace that ends a field. -/
  | bracket
  /-- What follows the brackets. -/
  | afterBrackets
  | level (start : Nat)
deriving DecidableEq, Repr

/-- Read a character at a place in a written rule, after a part of the rule. -/
def take (written : List Char) (part : Part) (rule : Rule) (place : Nat) (c : Char) :
    Option (Part × Rule) :=
  let named := fun start => String.ofList (between written start place)
  match part, c with
  | .beginning, '[' => some (.span (place + 1), rule)
  | .beginning, _ => if isStart c then some (.word place, rule) else none
  | .word start, '=' => some (.level (place + 1), { rule with target := some (named start) })
  | .word start, '[' => some (.span (place + 1), { rule with target := some (named start) })
  | .span start, ']' => some (.afterBrackets, { rule with span := some (named start) })
  | .span start, '{' =>
    let name := named start
    some (.field (place + 1), { rule with span := if name = "" then none else some name })
  | .field start, '}' =>
    (FieldRule.ofChars? (between written start place)).map fun field =>
      (.bracket, { rule with field := some field })
  | .bracket, ']' => some (.afterBrackets, rule)
  | .afterBrackets, '=' => some (.level (place + 1), rule)
  | .bracket, _ | .afterBrackets, _ => none
  | _, _ => some (part, rule)

/-- Read the rest of a rule from a place on. -/
def takeAll (written : List Char) : Part → Rule → Nat → List Char → Option (Part × Rule)
  | part, rule, _, [] => some (part, rule)
  | part, rule, place, c :: rest => do
    let (part, rule) ← take written part rule place c
    takeAll written part rule (place + c.utf8Size) rest

/-- The rule that a text states. -/
def ofString? (s : String) : Option Rule := do
  let written := s.toList
  let toEnd := fun start => String.ofList (between written start s.utf8ByteSize)
  let (part, rule) ← takeAll written .beginning {} 0 (Blank.trim written)
  match part with
  | .word start =>
    match Level.ofString? (toEnd start) with
    | some level => some { rule with level := level }
    | none => some { rule with target := some (toEnd start) }
  | .level start =>
    if toEnd start = "" then some rule
    else (Level.ofString? (toEnd start)).map fun level => { rule with level := level }
  | .afterBrackets => some rule
  | _ => none

end Rule

end Funge
