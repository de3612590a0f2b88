import Funge.Text.Alphanumeric

/-!
# Patterns

A rule of the log can give a pattern for the value of a field. No event is selected by the value of
a field, so nothing is ever matched with a pattern, but a rule with a malformed one is no rule.

A pattern is a regular expression: characters, the point, the anchors, bracketed classes, groups,
alternatives and repetitions. `Pattern.signs?` reads its characters as signs, of which a backslash
takes several, and `Pattern.continues` decides whether the signs make a pattern. Counted repetitions
cannot be written in a rule, and what would need tables of all characters is refused: the classes of
words, digits and properties, the boundaries of words, and the disregard of case.
-/

namespace Funge.Pattern

/-- The parts that a pattern is made of. -/
inductive Sign where
  /-- A character as it is, which may have a meaning of its own. -/
  | plain (c : Char)
  /-- A character that stands for itself. -/
  | literal (c : Char)
  /-- The beginning or the end of the text. -/
  | anchor
deriving DecidableEq, Repr

/-- The value of a hexadecimal digit. -/
def hexDigit? (c : Char) : Option Nat :=
  if c.isDigit then some (c.toNat - 48)
  else if 'a' ≤ c ∧ c ≤ 'f' then some (c.toNat - 87)
  else if 'A' ≤ c ∧ c ≤ 'F' then some (c.toNat - 55)
  else none

/-- The character with a code point in hexadecimal digits. -/
def hexChar? (digits : List Char) : Option Char := do
  let n ← digits.foldlM (fun n c => (hexDigit? c).map (16 * n + ·)) 0
  if n.isValidChar then some (Char.ofNat n) else none

/-- What a character stands for after a backslash: a control, an anchor, or, if it is in ASCII and
no letter, digit or angle bracket, itself. -/
def escaped? (c : Char) : Option Sign :=
  match c with
  | 'a' => some (.literal '\x07')
  | 'f' => some (.literal '\x0c')
  | 't' => some (.literal '\t')
  | 'n' => some (.literal '\n')
  | 'r' => some (.literal '\r')
  | 'v' => some (.literal '\x0b')
  | 'A' | 'z' => some .anchor
  | _ =>
    if c.toNat < 128 && !c.isAlphanum && c ≠ '<' && c ≠ '>' then some (.literal c) else none

/-- The signs of a pattern; `none` if a backslash stands before nothing, or before something that it
has no meaning with. -/
def signs? : List Char → Option (List Sign)
  | [] => some []
  | '\\' :: 'x' :: a :: b :: rest => do
    some (.literal (← hexChar? [a, b]) :: (← signs? rest))
  | '\\' :: 'u' :: a :: b :: c :: d :: rest => do
    some (.literal (← hexChar? [a, b, c, d]) :: (← signs? rest))
  | '\\' :: 'U' :: a :: b :: c :: d :: e :: f :: g :: h :: rest => do
    some (.literal (← hexChar? [a, b, c, d, e, f, g, h]) :: (← signs? rest))
  | '\\' :: c :: rest => do some ((← escaped? c) :: (← signs? rest))
  | ['\\'] => none
  | c :: rest => do some (.plain c :: (← signs? rest))

/-- How the next sign of a pattern is read. -/
inductive Mode where
  /-- As text; before it there is something to repeat, or there is not. -/
  | text (repeatable : Bool)
  /-- As a flag of a group, after some flags, the last of them first. -/
  | flags (before : List Char)
  /-- As part of the name of a group, after a beginning of it or not. -/
  | name (begun : Bool)
  /-- As the first of a bracketed class, inside of some others; after its `^` or not. -/
  | first (outer : Nat) (negated : Bool)
  /-- Inside a bracketed class, after a character that can begin a range or after none. -/
  | inside (outer : Nat) (low : Option Char)
  /-- After the hyphen that follows such a character. -/
  | range (outer : Nat) (low : Char)
deriving DecidableEq, Repr

/-- The flags of a group are letters, each at most once, and a hyphen turns off those after it. Case
cannot be disregarded. -/
def areFlags (flags : List Char) : Bool :=
  flags.all (fun c => ['i', 'm', 's', 'U', 'u', 'R', 'x', '-'].contains c && flags.count c = 1) &&
    flags.getLast? ≠ some '-' && !(flags.takeWhile (· ≠ '-')).contains 'i'

/-- The mode after a bracketed class inside of some others. -/
def afterClass : Nat → Mode
  | 0 => .text true
  | outer + 1 => .inside outer none

/-- The signs complete a pattern, from inside some groups. -/
def continues : Nat → Mode → List Sign → Bool
  | groups, .text _, [] => groups = 0
  | _, _, [] => false
  | groups, .text _, .plain '(' :: .plain '?' :: .plain 'P' :: .plain '<' :: rest =>
    continues (groups + 1) (.name false) rest
  | groups, .text _, .plain '(' :: .plain '?' :: .plain '<' :: rest =>
    continues (groups + 1) (.name false) rest
  | groups, .text _, .plain '(' :: .plain '?' :: rest => continues groups (.flags []) rest
  | groups, .text repeatable, .plain c :: rest =>
    match c with
    | '(' => continues (groups + 1) (.text false) rest
    | ')' => groups ≠ 0 && continues (groups - 1) (.text true) rest
    | '|' => continues groups (.text false) rest
    | '[' => continues groups (.first 0 false) rest
    | '*' | '+' | '?' => repeatable && continues groups (.text true) rest
    | '{' => false
    | _ => continues groups (.text true) rest
  | groups, .text _, _ :: rest => continues groups (.text true) rest
  | groups, .flags before, .plain c :: rest =>
    match c with
    | ':' => areFlags before.reverse && continues (groups + 1) (.text false) rest
    | ')' => before ≠ [] && areFlags before.reverse && continues groups (.text false) rest
    | _ => continues groups (.flags (c :: before)) rest
  | groups, .name begun, .plain c :: rest =>
    if c = '>' then begun && continues groups (.text false) rest
    else
      (c = '_' || Alphanumeric.isAlphanumeric c && (begun || !c.isDigit) ||
        begun && ['.', '[', ']'].contains c) && continues groups (.name true) rest
  | _, .flags _, _ :: _ => false
  | _, .name _, _ :: _ => false
  | groups, .first outer false, .plain '^' :: rest => continues groups (.first outer true) rest
  | groups, .first outer _, .plain ']' :: rest => continues groups (.inside outer none) rest
  | groups, .range outer _, .plain ']' :: rest => continues groups (afterClass outer) rest
  | groups, .range outer _, .plain '-' :: rest => continues groups (.inside outer none) rest
  | groups, .range outer low, .plain c :: rest =>
    low ≤ c && continues groups (.inside outer none) rest
  | groups, .range outer low, .literal c :: rest =>
    low ≤ c && continues groups (.inside outer none) rest
  | groups, .inside outer _, .plain ']' :: rest => continues groups (afterClass outer) rest
  | groups, .inside outer (some low), .plain '-' :: rest =>
    continues groups (.range outer low) rest
  | groups, .inside outer _, .plain c :: rest =>
    if c = '[' then continues groups (.first (outer + 1) false) rest
    else continues groups (.inside outer (if c = '-' then none else some c)) rest
  | groups, .first outer _, .plain c :: rest =>
    if c = '[' then continues groups (.first (outer + 1) false) rest
    else continues groups (.inside outer (if c = '-' then none else some c)) rest
  | groups, .inside outer _, .literal c :: rest => continues groups (.inside outer (some c)) rest
  | groups, .first outer _, .literal c :: rest => continues groups (.inside outer (some c)) rest
  | _, .range _ _, .anchor :: _ => false
  | _, .inside _ _, .anchor :: _ => false
  | _, .first _ _, .anchor :: _ => false

/-- The characters form a pattern. -/
def isPattern (cs : List Char) : Bool := (signs? cs).any (continues 0 (.text false))

end Funge.Pattern
