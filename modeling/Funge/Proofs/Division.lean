import Mathlib.Data.Int.ModEq
import Funge.Proofs.Expressions

/-!
# Quotients and remainders

Division and remainder are two instructions, and each takes both operands off the stack. What they
leave belongs together on all words: the quotient times the divisor, and the remainder added, is the
dividend again (`quotient_mul_divisor_add_remainder`). One quotient of integers is no word, that of
the least word by minus one. It wraps around to the least word itself, and since products and sums
wrap around in the same way, the equation needs no exception for it.
-/

namespace Funge

/-! ### Words -/

namespace Division

variable {dividend divisor : Int64}

/-- The product and the sum undo the division: what the quotient loses by wrapping around, the
product loses as well. -/
theorem quotient_mul_divisor_add_remainder (dividend divisor : Int64) :
    dividend / divisor * divisor + dividend % divisor = dividend :=
  calc dividend / divisor * divisor + dividend % divisor
      = .ofInt (dividend.toInt.tdiv divisor.toInt) * .ofInt divisor.toInt +
          .ofInt (dividend.toInt.tmod divisor.toInt) := by
        rw [← Operator.apply_divide, ← Operator.apply_modulo, Int64.ofInt_toInt]
        rfl
    _ = .ofInt (dividend.toInt.tdiv divisor.toInt * divisor.toInt +
          dividend.toInt.tmod divisor.toInt) := by
        rw [Int64.ofInt_add, Int64.ofInt_mul]
    _ = dividend := by
        rw [Int.tdiv_mul_add_tmod, Int64.ofInt_toInt]

/-- An equation between words holds of their integers up to a multiple of the number of words. -/
theorem modEq_of_mul_add_eq {x y z sum : Int64} (h : x * y + z = sum) :
    x.toInt * y.toInt + z.toInt ≡ sum.toInt [ZMOD 2 ^ 64] := by
  have hword : Int64.ofInt (x.toInt * y.toInt + z.toInt) = sum := by
    simpa only [Int64.ofInt_add, Int64.ofInt_mul, Int64.ofInt_toInt] using h
  rw [← (Int64.ofInt_eq_iff_bmod_eq_toInt _ _).mp hword]
  exact Int.bmod_emod.symm

/-- The only integer quotient that is no word is that of the least word by minus one. -/
theorem toInt_quotient (h : ¬ (dividend = Int64.minValue ∧ divisor = -1)) :
    (dividend / divisor).toInt = dividend.toInt.tdiv divisor.toInt := by
  rcases not_and_or.mp h with hdividend | hdivisor
  · exact Int64.toInt_div_of_ne_left dividend divisor hdividend
  · exact Int64.toInt_div_of_ne_right dividend divisor hdivisor

/-- Magnitudes are compared as natural numbers, since that of the least word is no word. -/
theorem natAbs_remainder_lt (dividend : Int64) (h : divisor ≠ 0) :
    (dividend % divisor).toInt.natAbs < divisor.toInt.natAbs := by
  have hpos : 0 < divisor.toInt.natAbs :=
    Int.natAbs_pos.mpr fun hzero => h (Int64.toInt_inj.mp hzero)
  rw [Int64.toInt_mod, Int.natAbs_tmod]
  exact Nat.mod_lt _ hpos

theorem sign_remainder (dividend divisor : Int64) :
    dividend % divisor = 0 ∨ (dividend % divisor).toInt.sign = dividend.toInt.sign := by
  refine or_iff_not_imp_left.mpr fun hne => ?_
  have hdvd : ¬ divisor.toInt ∣ dividend.toInt := by
    intro hdvd
    apply hne
    apply Int64.toInt_inj.mp
    rw [Int64.toInt_mod]
    exact Int.tmod_eq_zero_of_dvd hdvd
  rw [Int64.toInt_mod, Int.sign_tmod, if_neg hdvd]

/-- A quotient and a remainder that belong to a dividend and a divisor. -/
structure FitTogether (dividend divisor quotient remainder : Int64) : Prop where
  congruent : quotient.toInt * divisor.toInt + remainder.toInt ≡ dividend.toInt [ZMOD 2 ^ 64]
  small : remainder.toInt.natAbs < divisor.toInt.natAbs
  sign : remainder = 0 ∨ remainder.toInt.sign = dividend.toInt.sign
  /-- The quotient is that of the integers, rounded toward zero. -/
  rounded : ¬ (dividend = Int64.minValue ∧ divisor = -1) →
    quotient.toInt = dividend.toInt.tdiv divisor.toInt
  /-- The one quotient of integers that is no word wraps around, and nothing remains. -/
  wrapped : dividend = Int64.minValue → divisor = -1 → quotient = Int64.minValue ∧ remainder = 0

theorem fitTogether (dividend : Int64) (h : divisor ≠ 0) :
    FitTogether dividend divisor (dividend / divisor) (dividend % divisor) where
  congruent := modEq_of_mul_add_eq (quotient_mul_divisor_add_remainder dividend divisor)
  small := natAbs_remainder_lt dividend h
  sign := sign_remainder dividend divisor
  rounded := toInt_quotient
  wrapped hdividend hdivisor := by
    rw [hdividend, hdivisor]
    decide

end Division

/-! ### Operands on the stack -/

namespace Machine

variable {σ : Type}

/-- Two operands that are on the stack give way to the value of a function of them. -/
theorem combine_holding (m : Machine) (s : Stack) (left right : Int64)
    (f : Int64 → Int64 → Int64) :
    (m.holding ((s.push left).push right)).combine f = m.holding (s.push (f left right)) := rfl

/-- So they do when a divisor may not be zero and is not; there may be no value below it. -/
theorem divideBy_holding (m : Machine) (host : σ) (s : Stack) {right : Int64} (h : right ≠ 0)
    (f : Int64 → Int64 → Int64) :
    (m.holding (s.push right)).divideBy host f =
      (.ok (), m.holding (s.rest.push (f s.top right)), host) := if_neg h

/-- Division and remainder fit together on all words. With any divisor but zero on top of a stack,
and zero for the dividend if nothing is below it, neither instruction fails: one leaves the quotient
in place of the operands, the other the remainder, and nothing else changes. If the quotient is then
multiplied by the divisor and the remainder is added to the product, by instructions of the machine,
the dividend is where it was. -/
theorem divide_and_modulo_fit_together [Host σ] (m : Machine) (host : σ) (s : Stack)
    {divisor : Int64} (h : divisor ≠ 0) :
    ∃ quotient remainder product, Division.FitTogether s.top divisor quotient remainder ∧
      (m.holding (s.push divisor)).perform host .divide =
        (.ok (), m.holding (s.rest.push quotient), host) ∧
      (m.holding (s.push divisor)).perform host .modulo =
        (.ok (), m.holding (s.rest.push remainder), host) ∧
      (m.holding ((s.rest.push quotient).push divisor)).perform host .multiply =
        (.ok (), m.holding (s.rest.push product), host) ∧
      (m.holding ((s.rest.push product).push remainder)).perform host .add =
        (.ok (), m.holding (s.rest.push s.top), host) := by
  refine ⟨s.top / divisor, s.top % divisor, s.top / divisor * divisor,
    Division.fitTogether s.top h, ?_, ?_, ?_, ?_⟩
  · rw [perform, divideBy_holding m host s h]
  · rw [perform, divideBy_holding m host s h]
  · rw [perform, combine_holding]
  · rw [perform, combine_holding, Division.quotient_mul_divisor_add_remainder]

/-- The quotient that wraps around, and a divisor with nothing below it. -/
theorem divide_and_modulo_fit_together_of_least :
    let m := Machine.start ⟨1, 1, #[.instruction .divide], by decide, by decide, rfl⟩ 0 none
    let host := Console.ofInput [] {}
    let least := Stack.empty.push Int64.minValue
    ((m.holding (least.push (-1))).perform host .divide = (.ok (), m.holding least, host) ∧
      (m.holding (least.push (-1))).perform host .modulo =
        (.ok (), m.holding (Stack.empty.push 0), host)) ∧
    ∃ quotient, (m.holding (Stack.empty.push 7)).perform host .divide =
        (.ok (), m.holding (Stack.empty.push quotient), host) ∧
      quotient.toInt = (0 : Int).tdiv 7 := by
  intro m host least
  have hminus : (-1 : Int64) ≠ 0 := by decide
  have hseven : (7 : Int64) ≠ 0 := by decide
  refine ⟨?_, ?_⟩
  · obtain ⟨quotient, remainder, _, hfit, hdivide, hmodulo, -⟩ :=
      divide_and_modulo_fit_together m host least hminus
    obtain ⟨rfl, rfl⟩ := hfit.wrapped rfl rfl
    exact ⟨hdivide, hmodulo⟩
  · obtain ⟨quotient, _, _, hfit, hdivide, -⟩ :=
      divide_and_modulo_fit_together m host Stack.empty hseven
    exact ⟨quotient, hdivide, hfit.rounded (by decide)⟩

end Machine

end Funge
