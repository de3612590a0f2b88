/-!
# Decimal numerals

A signed numeral is an optional single sign and at least one digit from `0` to `9`; leading zeros
are allowed, blanks and separators are not. A numeral names a machine value when its number lies in
the range of the value type. `print` writes a number with no leading zero and a sign only when it is
negative, and `toInt?_print` reads that back.
-/

namespace Funge.Decimal

/-- The number a sequence of digits names; `none` for an empty one or one with another character. -/
def toNat? (cs : List Char) : Option Nat :=
  if cs ≠ [] ∧ cs.all Char.isDigit then some (Nat.ofDigitChars 10 cs 0) else none

/-- The integer a signed numeral names. -/
def toInt? : List Char → Option Int
  | '-' :: digits => (toNat? digits).map fun n => -(n : Int)
  | '+' :: digits => (toNat? digits).map fun n => (n : Int)
  | digits => (toNat? digits).map fun n => (n : Int)

/-- The signed 64-bit value a numeral names, if its integer is in range. -/
def toInt64? (cs : List Char) : Option Int64 :=
  (toInt? cs).bind fun i =>
    if Int64.minValue.toInt ≤ i ∧ i ≤ Int64.maxValue.toInt then some (Int64.ofInt i) else none

/-- The unsigned 64-bit value a numeral names, if it is in range; a plus sign may precede it. -/
def toUInt64? (cs : List Char) : Option UInt64 :=
  let digits := match cs with
    | '+' :: rest => rest
    | _ => cs
  (toNat? digits).bind fun n => if n < UInt64.size then some (UInt64.ofNat n) else none

/-- The shortest numeral of an integer. -/
def print (i : Int) : List Char :=
  if i < 0 then '-' :: Nat.toDigits 10 i.natAbs else Nat.toDigits 10 i.natAbs

theorem toNat?_toDigits (n : Nat) : toNat? (Nat.toDigits 10 n) = some n := by
  have hd : (Nat.toDigits 10 n).all Char.isDigit = true :=
    List.all_eq_true.2 fun _ hc => Nat.isDigit_of_mem_toDigits (by decide) (by decide) hc
  simp [toNat?, hd, Nat.toDigits_ne_nil, Nat.ofDigitChars_ten_toDigits]

theorem toInt?_eq_of_isDigit {c : Char} {cs : List Char} (h : c.isDigit = true) :
    toInt? (c :: cs) = (toNat? (c :: cs)).map fun n => (n : Int) := by
  unfold toInt?
  split
  · next heq => cases heq; cases h
  · next heq => cases heq; cases h
  · rfl

@[simp] theorem toInt?_print (i : Int) : toInt? (print i) = some i := by
  unfold print
  split
  · next h =>
    rw [toInt?, toNat?_toDigits]
    exact congrArg some (show -(i.natAbs : Int) = i by omega)
  · next h =>
    have hn := toNat?_toDigits i.natAbs
    have hd : ∀ c ∈ Nat.toDigits 10 i.natAbs, c.isDigit = true := fun _ hc =>
      Nat.isDigit_of_mem_toDigits (by decide) (by decide) hc
    cases hds : Nat.toDigits 10 i.natAbs with
    | nil => exact absurd hds Nat.toDigits_ne_nil
    | cons c cs =>
      rw [hds] at hn hd
      rw [toInt?_eq_of_isDigit (hd c List.mem_cons_self), hn]
      exact congrArg some (show (i.natAbs : Int) = i by omega)

theorem print_injective {i j : Int} (h : print i = print j) : i = j := by
  have hread := congrArg toInt? h
  rw [toInt?_print, toInt?_print] at hread
  exact Option.some.inj hread

theorem mem_print {i : Int} {c : Char} (h : c ∈ print i) : c = '-' ∨ c.isDigit = true := by
  have hdigit : c ∈ Nat.toDigits 10 i.natAbs → c.isDigit = true :=
    Nat.isDigit_of_mem_toDigits (by decide) (by decide)
  unfold print at h
  split at h
  · exact (List.mem_cons.mp h).imp_right hdigit
  · exact .inr (hdigit h)

end Funge.Decimal
