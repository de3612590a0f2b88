import Funge.Text.Decimal

/-!
# Levels of the log

How important an event is, and how much of the log is wanted, are told on one scale.
-/

namespace Funge

/-- How much a filter lets pass. The later levels include the earlier ones. -/
inductive Level where
  | off
  | error
  | warn
  | info
  | debug
  | trace
deriving DecidableEq, Repr

namespace Level

/-- A level's place in the order of the levels, which is also its numeral. -/
def rank : Level → Nat
  | off => 0
  | error => 1
  | warn => 2
  | info => 3
  | debug => 4
  | trace => 5

/-- The levels in their order. -/
def all : List Level := [off, error, warn, info, debug, trace]

/-- A level's name. -/
def name : Level → String
  | off => "OFF"
  | error => "ERROR"
  | warn => "WARN"
  | info => "INFO"
  | debug => "DEBUG"
  | trace => "TRACE"

/-- The level a text names, by its name in any mixture of cases or by its numeral. -/
def ofString? (s : String) : Option Level :=
  match Decimal.toUInt64? s.toList with
  | some n => all.find? fun level => level.rank = n.toNat
  | none => all.find? fun level => level.name = s.map Char.toUpper

/-- How a level's name is coloured, by the number of the terminal colour. -/
def colour : Level → Nat
  | off | error => 31
  | warn => 33
  | info => 32
  | debug => 34
  | trace => 35

end Level

end Funge
