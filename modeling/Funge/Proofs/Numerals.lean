import Mathlib.Data.Nat.Digits.Defs
import Mathlib.Tactic.Ring
import Funge.Proofs.Reading

/-!
# Numerals and the values they name

A numeral is a sign, or none, and digits, of which there is at least one; the number it names is that
of its digits by their places. `Decimal.toInt64?_eq_some_iff` says that the reader accepts exactly the
numerals whose number is a machine value: there is no limit on the number of digits, leading zeros
count for nothing, and nothing but the number itself decides whether it is in range.

What a line decides is decided by what is left of it without the white space around it
(`Blank.Trims.trim_eq`), so a number can be read back from a line with more white space on it.
-/

namespace Funge

/-! ### Numerals -/

namespace Decimal

/-- How the sign of a numeral is written. -/
inductive Sign where
  | unsigned
  | plus
  | minus
deriving DecidableEq, Repr

namespace Sign

/-- The characters of a sign. -/
def chars : Sign → List Char
  | unsigned => []
  | plus => ['+']
  | minus => ['-']

/-- The number with a sign and a magnitude. -/
def apply : Sign → Nat → Int
  | unsigned, n => n
  | plus, n => n
  | minus, n => -n

end Sign

/-- A sign and digits, the first of them in the highest place. -/
structure Numeral where
  sign : Sign
  digits : List (Fin 10)
  digits_ne_nil : digits ≠ []

/-- The characters of some digits. -/
def digitChars (digits : List (Fin 10)) : List Char := digits.map fun d : Fin 10 => Nat.digitChar d

/-- The number of some digits: each counts ten times as much as the one behind it. -/
def magnitude (digits : List (Fin 10)) : Nat :=
  Nat.ofDigits 10 (digits.reverse.map fun d : Fin 10 => d.val)

namespace Numeral

/-- The characters of a numeral. -/
def chars (n : Numeral) : List Char := n.sign.chars ++ digitChars n.digits

/-- The number a numeral names. -/
def value (n : Numeral) : Int := n.sign.apply (magnitude n.digits)

end Numeral

/-! ### What the reader accepts -/

variable {cs : List Char}

theorem isDigit_of_mem_digitChars {digits : List (Fin 10)} {c : Char} (h : c ∈ digitChars digits) :
    c.isDigit = true := by
  obtain ⟨d, -, rfl⟩ := List.mem_map.mp h
  rw [Nat.isDigit_digitChar, decide_eq_true_iff]
  exact d.isLt

theorem exists_digitChars (h : ∀ c ∈ cs, c.isDigit = true) : ∃ digits, digitChars digits = cs := by
  induction cs with
  | nil => exact ⟨[], rfl⟩
  | cons c cs ih =>
      obtain ⟨digits, rfl⟩ := ih fun d hd => h d (List.mem_cons_of_mem c hd)
      obtain ⟨hlow, hhigh⟩ := CodePoint.toNat_of_isDigit (h c List.mem_cons_self)
      have hlt : c.toNat - 48 < 10 := by omega
      have hchar : Nat.digitChar (c.toNat - 48) = c := by
        apply Char.toNat_inj.mp
        rw [Nat.toNat_digitChar_of_lt_ten hlt]
        omega
      exact ⟨⟨c.toNat - 48, hlt⟩ :: digits, congrArg (· :: digitChars digits) hchar⟩

/-- Reading digits from left to right counts each of them in its place. -/
theorem ofDigitChars_digitChars (digits : List (Fin 10)) (init : Nat) :
    Nat.ofDigitChars 10 (digitChars digits) init = magnitude digits + 10 ^ digits.length * init := by
  induction digits generalizing init with
  | nil => simp [digitChars, magnitude]
  | cons d digits ih =>
      have hfirst : Nat.ofDigitChars 10 (digitChars (d :: digits)) init =
          Nat.ofDigitChars 10 (digitChars digits) (10 * init + d) :=
        Nat.ofDigitChars_cons_digitChar_of_lt_ten d.isLt
      have hplace : magnitude (d :: digits) = magnitude digits + 10 ^ digits.length * d := by
        rw [magnitude, List.reverse_cons, List.map_append, Nat.ofDigits_append, List.length_map,
          List.length_reverse, List.map_singleton, Nat.ofDigits_singleton]
        rfl
      rw [hfirst, ih, hplace, List.length_cons]
      ring

theorem toNat?_eq_some_iff {k : Nat} :
    toNat? cs = some k ↔ ∃ digits ≠ [], digitChars digits = cs ∧ magnitude digits = k := by
  have hnumber : ∀ digits, Nat.ofDigitChars 10 (digitChars digits) 0 = magnitude digits := by
    intro digits
    rw [ofDigitChars_digitChars, Nat.mul_zero, Nat.add_zero]
  rw [toNat?]
  constructor
  · intro h
    split at h
    · next hdigits =>
      obtain ⟨digits, rfl⟩ := exists_digitChars (List.all_eq_true.mp hdigits.2)
      refine ⟨digits, ?_, rfl, ?_⟩
      · rintro rfl
        exact hdigits.1 rfl
      · rw [← hnumber]
        exact Option.some.inj h
    · cases h
  · rintro ⟨digits, hne, rfl, rfl⟩
    have hall : (digitChars digits).all Char.isDigit = true :=
      List.all_eq_true.mpr fun c hc => isDigit_of_mem_digitChars hc
    have hsome : digitChars digits ≠ [] := mt List.map_eq_nil_iff.mp hne
    rw [if_pos ⟨hsome, hall⟩, hnumber]

/-- A text is read as a sign, or none, and what stands behind it. -/
theorem exists_sign (cs : List Char) :
    ∃ sign rest, cs = Sign.chars sign ++ rest ∧ toInt? cs = (toNat? rest).map sign.apply := by
  unfold toInt?
  split
  · next rest => exact ⟨.minus, rest, rfl, by cases toNat? rest <;> rfl⟩
  · next rest => exact ⟨.plus, rest, rfl, by cases toNat? rest <;> rfl⟩
  · exact ⟨.unsigned, cs, rfl, by cases toNat? cs <;> rfl⟩

/-- The reader accepts the numerals, and reads the number that each one names. -/
theorem toInt?_eq_some_iff {i : Int} :
    toInt? cs = some i ↔ ∃ n : Numeral, n.chars = cs ∧ n.value = i := by
  constructor
  · intro h
    obtain ⟨sign, rest, rfl, hread⟩ := exists_sign cs
    obtain ⟨k, hk, rfl⟩ := Option.map_eq_some_iff.mp (hread.symm.trans h)
    obtain ⟨digits, hne, rfl, rfl⟩ := toNat?_eq_some_iff.mp hk
    exact ⟨⟨sign, digits, hne⟩, rfl, rfl⟩
  · rintro ⟨⟨sign, digits, hne⟩, rfl, rfl⟩
    have hnat : toNat? (digitChars digits) = some (magnitude digits) :=
      toNat?_eq_some_iff.mpr ⟨digits, hne, rfl, rfl⟩
    cases sign with
    | minus =>
        change toInt? ('-' :: digitChars digits) = _
        rw [toInt?, hnat]
        rfl
    | plus =>
        change toInt? ('+' :: digitChars digits) = _
        rw [toInt?, hnat]
        rfl
    | unsigned =>
        change toInt? (digitChars digits) = _
        cases hcs : digitChars digits with
        | nil => exact absurd (List.map_eq_nil_iff.mp hcs) hne
        | cons c rest =>
            have hdigit : c.isDigit = true :=
              isDigit_of_mem_digitChars (hcs ▸ List.mem_cons_self)
            rw [toInt?_eq_of_isDigit hdigit, ← hcs, hnat]
            rfl

/-- The range of machine values. -/
theorem exists_toInt_eq_iff {i : Int} :
    (∃ v : Int64, v.toInt = i) ↔ -2 ^ 63 ≤ i ∧ i ≤ 2 ^ 63 - 1 := by
  constructor
  · rintro ⟨v, rfl⟩
    exact ⟨v.le_toInt, Int.le_sub_one_of_lt v.toInt_lt⟩
  · rintro ⟨hlow, hhigh⟩
    exact ⟨Int64.ofInt i, Int64.toInt_ofInt_of_le hlow (Int.lt_of_le_sub_one hhigh)⟩

/-- The reader of machine values accepts the numerals of the numbers that are machine values. -/
theorem toInt64?_eq_some_iff {v : Int64} :
    toInt64? cs = some v ↔ ∃ n : Numeral, n.chars = cs ∧ n.value = v.toInt := by
  rw [← toInt?_eq_some_iff, toInt64?, Option.bind_eq_some_iff]
  constructor
  · rintro ⟨i, hi, h⟩
    split at h
    · next hrange =>
      obtain rfl := Option.some.inj h
      rw [Int64.toInt_minValue, Int64.toInt_maxValue] at hrange
      rw [Int64.toInt_ofInt_of_le hrange.1 (Int.lt_of_le_sub_one hrange.2)]
      exact hi
    · cases h
  · intro h
    refine ⟨v.toInt, h, ?_⟩
    rw [if_pos ⟨v.minValue_le_toInt, v.toInt_le⟩, Int64.ofInt_toInt]

/-! ### Characters of a numeral -/

theorem isBlank_of_mem_chars {n : Numeral} {c : Char} (h : c ∈ n.chars) :
    Blank.isBlank c = false := by
  rcases List.mem_append.mp h with h | h
  · cases hsign : n.sign with
    | unsigned =>
        rw [hsign] at h
        cases h
    | plus =>
        rw [hsign] at h
        obtain rfl := List.mem_singleton.mp h
        rfl
    | minus =>
        rw [hsign] at h
        obtain rfl := List.mem_singleton.mp h
        rfl
  · obtain ⟨low, high⟩ := CodePoint.toNat_of_isDigit (isDigit_of_mem_digitChars h)
    simp only [Blank.isBlank, Bool.or_eq_false_iff, Bool.and_eq_false_iff, beq_eq_false_iff_ne,
      decide_eq_false_iff_not]
    omega

/-- What is printed for a number is a numeral of it. -/
theorem exists_numeral_print (i : Int) : ∃ n : Numeral, n.chars = print i ∧ n.value = i :=
  toInt?_eq_some_iff.mp (toInt?_print i)

end Decimal

/-! ### White space around a numeral -/

namespace Blank

theorem dropWhile_of_head? {cs : List Char} (h : ∀ c, cs.head? = some c → isBlank c = false) :
    cs.dropWhile isBlank = cs := by
  cases cs with
  | nil => rfl
  | cons c cs => exact List.dropWhile_cons_of_neg (Bool.eq_false_iff.mp (h c rfl))

/-- There is one way to take the white space off a text. -/
theorem Trims.trim_eq {text core : List Char} (h : Trims text core) : trim text = core := by
  by_cases hcore : core = []
  · rw [hcore, (trims_trim text).eq_nil_iff, ← h.eq_nil_iff]
    exact hcore
  · obtain ⟨left, right, rfl, hblank⟩ := h.around
    have hleft : ∀ c ∈ left, isBlank c = true := fun c hc => hblank c (List.mem_append_left _ hc)
    have hright : ∀ c ∈ right.reverse, isBlank c = true :=
      fun c hc => hblank c (List.mem_append_right _ (List.mem_reverse.mp hc))
    have hfirst : (core ++ right).dropWhile isBlank = core ++ right := by
      refine dropWhile_of_head? fun c hc => h.first c ?_
      rwa [List.head?_append_of_ne_nil _ hcore] at hc
    have hlast : core.reverse.dropWhile isBlank = core.reverse := by
      refine dropWhile_of_head? fun c hc => h.last c ?_
      rwa [List.head?_reverse] at hc
    rw [trim, List.append_assoc, List.dropWhile_append_of_pos hleft, hfirst, trimRight,
      List.reverse_append, List.dropWhile_append_of_pos hright, hlast, List.reverse_reverse]

end Blank

/-! ### Reading a number from a line -/

namespace Console

open Decimal (Numeral)

variable {c : Console} {line core : List Char} {rest : List UInt8}

/-- Where nothing is left of the current line, a number is read from the next one. -/
theorem readInteger_of_line (hpending : c.pending = [])
    (hline : FirstLine 10 c.unread (Utf8.encode line) rest) (hne : line ≠ []) :
    c.readInteger = (integerOn line, { c with unread := rest }) := by
  have hc : { c with pending := [] } = c := by rw [← hpending]
  rw [readInteger, hpending, if_pos Blank.trim_nil, hc, nextLine_of_text hline hne, hpending]
  rfl

theorem integerOn_eq_ok_iff (h : Blank.Trims line core) {v : Int64} :
    integerOn line = .ok v ↔ ∃ n : Numeral, n.chars = core ∧ n.value = v.toInt := by
  rw [← Decimal.toInt64?_eq_some_iff, integerOn, h.trim_eq]
  cases Decimal.toInt64? core with
  | none => simp
  | some w => simp

theorem integerOn_of_ne_ok (h : Blank.Trims line core) (hne : ∀ v, integerOn line ≠ .ok v) :
    integerOn line = .error (.invalidInteger (String.ofList core)) := by
  rw [integerOn, h.trim_eq] at hne ⊢
  cases hread : Decimal.toInt64? core with
  | none => rfl
  | some v =>
      rw [hread] at hne
      exact absurd rfl (hne v)

end Console

end Funge
