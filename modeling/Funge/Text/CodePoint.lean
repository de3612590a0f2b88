/-!
# Code points as values

The machine handles characters by their code points. `CodePoint.value` is the code point of a
character; `CodePoint.char?` goes back, and is undefined exactly on the values that are no Unicode
scalar value: the negative ones, the surrogates, and those above `0x10FFFF`.
-/

namespace Funge.CodePoint

/-- The code point of a character, as a machine value. -/
def value (c : Char) : Int64 := Int64.ofNat c.toNat

/-- The character with this code point, if there is one. -/
def char? (v : Int64) : Option Char :=
  if h : 0 ≤ v.toInt ∧ v.toInt.toNat.isValidChar then
    some (Char.ofNatAux v.toInt.toNat h.2)
  else
    none

/-- The character that stands for a value on output: U+FFFD where the value is no character. -/
def shown (v : Int64) : Char := (char? v).getD '\uFFFD'

theorem toNat_lt (c : Char) : c.toNat < 0x110000 := by
  have h := c.valid
  change c.val.toNat.isValidChar at h
  change c.val.toNat < _
  unfold Nat.isValidChar at h
  omega

/-- The code points of the digits are consecutive. -/
theorem toNat_of_isDigit {c : Char} (h : c.isDigit = true) : 48 ≤ c.toNat ∧ c.toNat ≤ 57 := by
  simpa [Char.isDigit, UInt32.le_iff_toNat_le] using h

@[simp] theorem toInt_value (c : Char) : (value c).toInt = c.toNat :=
  Int64.toInt_ofNat_of_lt (Nat.lt_trans (toNat_lt c) (by decide))

@[simp] theorem char?_value (c : Char) : char? (value c) = some c := by
  have h : 0 ≤ (value c).toInt ∧ (value c).toInt.toNat.isValidChar := by
    rw [toInt_value]
    exact ⟨Int.natCast_nonneg _, c.valid⟩
  have hn : (value c).toInt.toNat = c.toNat := by
    rw [toInt_value]
    exact Int.toNat_natCast _
  unfold char?
  rw [dif_pos h]
  exact congrArg some (Char.toNat_inj.1 hn)

theorem value_of_char? {v : Int64} {c : Char} (h : char? v = some c) : value c = v := by
  by_cases hv : 0 ≤ v.toInt ∧ v.toInt.toNat.isValidChar
  · rw [char?, dif_pos hv] at h
    obtain rfl := Option.some.inj h
    apply Int64.toInt_inj.1
    rw [toInt_value]
    exact Int.toNat_of_nonneg hv.1
  · rw [char?, dif_neg hv] at h
    cases h

@[simp] theorem shown_value (c : Char) : shown (value c) = c := by
  simp [shown]

end Funge.CodePoint
