import Funge.Event
import Funge.Log.Rule

/-!
# The log

An event is logged under a level and a target, as a message and named fields, on one line. A filter
decides which events are logged: it is a list of rules, and of those that are about an event the most
specific one decides, which is the one with the longest beginning of the target. Events happen in no
span and are not selected by values, so rules with a span or a value are about none of them.
`Filter.ofString?` reads a filter from a list of rules between commas.
-/

namespace Funge

/-- The value of a field. -/
inductive FieldValue where
  | number (n : Int)
  | text (s : String)
deriving DecidableEq, Repr

/-- The text of a field's value. -/
def FieldValue.shown : FieldValue → String
  | number n => toString n
  | text s => s

namespace Event

/-- The level of an event. -/
def level : Event → Level
  | loaded .. => .debug
  | executing .. => .trace
  | halted .. => .debug
  | failed _ => .debug

/-- The part of the program an event comes from. -/
def target : Event → String
  | loaded .. => "befunge::grid"
  | _ => "befunge::interp::machine"

/-- The message of an event. -/
def message : Event → String
  | loaded .. => "loaded program grid"
  | executing .. => "step"
  | halted .. => "halted"
  | failed fault => "run failed: " ++ fault.message

/-- The named fields of an event. -/
def fields : Event → List (String × FieldValue)
  | loaded height width => [("width", .number width), ("height", .number height)]
  | executing position cell direction depth =>
    [("row", .number position.row), ("col", .number position.col),
      ("cell", .text (String.singleton cell.shown)), ("direction", .text direction.name),
      ("depth", .number depth)]
  | halted steps position => [("steps", .number steps), ("position", .text (toString position))]
  | failed fault =>
    [("kind", .text fault.kind.name), ("position", .text (toString fault.position))]

/-- An event as a line of the log, with the time it happened at. -/
def line (event : Event) (time : String) : String :=
  let field := fun (f : String × FieldValue) =>
    s!" \x1b[3m{f.1}\x1b[0m\x1b[2m=\x1b[0m{f.2.shown}"
  s!"{time} \x1b[{event.level.colour}m{event.level.name}\x1b[0m " ++
    s!"\x1b[2m{event.target}\x1b[0m\x1b[2m:\x1b[0m {event.message}" ++
    String.join (event.fields.map field) ++ "\n"

end Event

namespace Rule

/-- A rule is about an event if it names no span, if the event's target begins as it says, and if
the event has the field it names, whatever its value. The message is a field, too. -/
def concerns (rule : Rule) (event : Event) : Bool :=
  rule.span.isNone && rule.target.all (fun target => target.isPrefixOf event.target) &&
    rule.field.all fun field =>
      field.value.isNone && ("message" :: event.fields.map Prod.fst).contains field.name

/-- The length in bytes of the beginning a rule gives for the target; none at all is shorter than an
empty one. -/
def reach (rule : Rule) : Nat :=
  match rule.target with
  | none => 0
  | some target => target.utf8ByteSize + 1

/-- A word stands behind another one in a dictionary. -/
def isBehind : List Char → List Char → Bool
  | [], _ => false
  | _ :: _, [] => true
  | a :: as, b :: bs => if a = b then isBehind as bs else b.toNat < a.toNat

/-- A rule has a field where another one has none, or has one that stands behind it in a
dictionary. -/
def outranksByField (rule other : Rule) : Bool :=
  match rule.field, other.field with
  | some field, some otherField => isBehind field.name.toList otherField.name.toList
  | some _, none => true
  | none, _ => false

/-- Of two rules about an event, the first decides before the second. -/
def outranks (rule other : Rule) : Bool :=
  other.reach < rule.reach || rule.reach = other.reach && rule.outranksByField other

end Rule

/-- A list of rules. -/
structure Filter where
  rules : List Rule
deriving DecidableEq, Repr

namespace Filter

/-- The filter that lets warnings and errors pass, of which a run has none. -/
def quiet : Filter := ⟨[{ level := .warn }]⟩

/-- The filter that lets everything pass that a run reports. -/
def everything : Filter := ⟨[{ target := some "befunge" }]⟩

/-- The filter a text states; `none` if one of its rules is no rule. -/
def ofString? (s : String) : Option Filter :=
  let parts := (s.splitOn ",").filter fun part => part ≠ ""
  (parts.mapM Rule.ofString?).map Filter.mk

/-- Of two rules, the one that decides: the later one unless the earlier outranks it. -/
def stronger (best : Option Rule) (rule : Rule) : Option Rule :=
  match best with
  | some other => if other.outranks rule then some other else some rule
  | none => some rule

/-- The rule that decides about an event. -/
def ruleFor (filter : Filter) (event : Event) : Option Rule :=
  (filter.rules.filter fun rule => rule.concerns event).foldl stronger none

/-- An event passes the filter. -/
def passes (filter : Filter) (event : Event) : Bool :=
  (filter.ruleFor event).any fun rule => event.level.rank ≤ rule.level.rank

/-- The lines of the log for some events, all at one time. -/
def log (filter : Filter) (time : String) (events : List Event) : String :=
  String.join ((events.filter filter.passes).map fun event => event.line time)

end Filter

end Funge
