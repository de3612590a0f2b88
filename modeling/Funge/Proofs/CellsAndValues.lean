import Funge.Proofs.StraightLine

/-!
# Cells and values, one to one

Every value becomes a cell that has this value. The other way round a cell can have the value of
another one: the code point of `+` as a mere character has the value of the instruction to add. Such
cells are `Disguised`, and they are the only ones that do not come back from their value
(`isCanonical_iff`). Neither a program text nor a stored value makes one of them, so the cells that
occur and the values correspond one to one.

The value of a digit is the code of its character, which is counted in a byte. A digit that occurs
is at most nine, and then the byte has room for it.
-/

namespace Funge.Cell

/-! ### Cells that occur -/

/-- A cell that a character of a line becomes, or a stored value. -/
inductive Occurs : Cell → Prop where
  | read {line : List Char} {cell : Cell} : cell ∈ line.map ofChar → Occurs cell
  | stored (v : Int64) : Occurs (ofValue v)

/-- A cell with the value of another sort of cell: a digit above nine, or a mere value that is the
code point of a digit, of the space or of a glyph. -/
inductive Disguised : Cell → Prop where
  | digit {d : UInt8} : 9 < d → Disguised (digit d)
  | other {c : Char} : c.isDigit = true ∨ c = ' ' ∨ (∃ i : Instruction, i.glyph = c) →
      Disguised (other (CodePoint.value c))

theorem Occurs.isCanonical {cell : Cell} (h : cell.Occurs) : cell.IsCanonical := by
  cases h with
  | read hmem =>
      obtain ⟨c, -, rfl⟩ := List.mem_map.mp hmem
      exact isCanonical_ofChar c
  | stored v => exact isCanonical_ofValue v

/-! ### Cells that come back from their value -/

theorem le_nine_of_ofChar {c : Char} {d : UInt8} (h : ofChar c = digit d) : d ≤ 9 := by
  unfold ofChar at h
  split at h
  · next hc =>
    obtain ⟨low, high⟩ := CodePoint.toNat_of_isDigit hc
    obtain rfl := Cell.digit.inj h
    rw [UInt8.le_iff_toNat_le, UInt8.toNat_ofNat']
    change (c.toNat - 48) % 256 ≤ 9
    omega
  · split at h
    · cases h
    · split at h <;> cases h

theorem le_nine_of_ofValue {v : Int64} {d : UInt8} (h : ofValue v = digit d) : d ≤ 9 := by
  rw [ofValue] at h
  cases hc : CodePoint.char? v with
  | none =>
      rw [hc] at h
      cases h
  | some c =>
      rw [hc] at h
      exact le_nine_of_ofChar h

theorem isCanonical_digit_iff {d : UInt8} : (digit d).IsCanonical ↔ d ≤ 9 := by
  refine ⟨le_nine_of_ofValue, fun h => ?_⟩
  have hd : d.toNat < 10 := Nat.lt_succ_of_le (UInt8.le_iff_toNat_le.mp h)
  have hcell : ofChar (Nat.digitChar d.toNat) = digit d := by
    have hcell := ofChar_digitChar ⟨d.toNat, hd⟩
    rwa [UInt8.ofNat_toNat] at hcell
  exact hcell ▸ isCanonical_ofChar _

/-- A character becomes a mere value if it is no digit, no space and no glyph. -/
theorem ofChar_eq_other_iff {c : Char} :
    ofChar c = other (CodePoint.value c) ↔
      ¬ (c.isDigit = true ∨ c = ' ' ∨ ∃ i : Instruction, i.glyph = c) := by
  constructor
  · rintro hcell (hdigit | rfl | ⟨i, rfl⟩)
    · rw [ofChar, if_pos hdigit] at hcell
      cases hcell
    · cases hcell
    · rw [ofChar_glyph] at hcell
      cases hcell
  · intro hplain
    obtain ⟨hdigit, hrest⟩ := not_or.mp hplain
    obtain ⟨hspace, hglyph⟩ := not_or.mp hrest
    have hnone : Instruction.ofGlyph? c = none := by
      refine Option.eq_none_iff_forall_ne_some.mpr fun i hi => ?_
      exact hglyph ⟨i, Instruction.glyph_of_ofGlyph? hi⟩
    rw [ofChar, if_neg hdigit, if_neg hspace, hnone]

theorem isCanonical_other_iff {v : Int64} : (other v).IsCanonical ↔ ¬ (other v).Disguised := by
  rw [IsCanonical]
  cases hc : CodePoint.char? v with
  | none =>
      have hvalue : ofValue v = other v := by rw [ofValue, hc]; rfl
      refine iff_of_true hvalue ?_
      rintro ⟨⟩
      rw [CodePoint.char?_value] at hc
      cases hc
  | some c =>
      obtain rfl := CodePoint.value_of_char? hc
      have hdisguised : (other (CodePoint.value c)).Disguised ↔
          (c.isDigit = true ∨ c = ' ' ∨ ∃ i : Instruction, i.glyph = c) := by
        refine ⟨fun h => ?_, .other⟩
        generalize hcell : other (CodePoint.value c) = cell at h
        cases h with
        | digit => cases hcell
        | other h => exact CodePoint.value_injective (Cell.other.inj hcell) ▸ h
      rw [hdisguised, ← ofChar_eq_other_iff, ← ofValue_value]
      rfl

/-- The cells that come back from their value are those that are not disguised. -/
theorem isCanonical_iff {cell : Cell} : cell.IsCanonical ↔ ¬ cell.Disguised := by
  cases cell with
  | digit d =>
      rw [isCanonical_digit_iff, ← UInt8.not_lt]
      exact not_congr ⟨.digit, fun h => by cases h; assumption⟩
  | instruction i => exact iff_of_true (ofChar_glyph i ▸ isCanonical_ofChar _) nofun
  | other v => exact isCanonical_other_iff
  | blank => exact iff_of_true isCanonical_blank nofun

/-! ### One to one -/

/-- The value of a digit is the code of its character, and adding it up in a byte does not
overflow. -/
def CodeFits (cell : Cell) : Prop :=
  ∀ d, cell = digit d →
    48 + d.toNat < UInt8.size ∧ cell.value = Int64.ofNat (48 + d).toNat

theorem codeFits_of_le {cell : Cell} (h : ∀ d, cell = digit d → d ≤ 207) : cell.CodeFits := by
  rintro d rfl
  have hd : d.toNat ≤ 207 := UInt8.le_iff_toNat_le.mp (h d rfl)
  have hfits : 48 + d.toNat < UInt8.size :=
    Nat.lt_of_le_of_lt (Nat.add_le_add_left hd 48) (by decide)
  have hsum : (48 + d).toNat = 48 + d.toNat := by
    rw [UInt8.toNat_add]
    exact Nat.mod_eq_of_lt hfits
  exact ⟨hfits, by rw [hsum, value]⟩

theorem Occurs.le_nine {cell : Cell} (h : cell.Occurs) {d : UInt8} (hcell : cell = digit d) :
    d ≤ 9 :=
  isCanonical_digit_iff.mp (hcell ▸ h.isCanonical)

/-- Values and cells correspond one to one. A value is that of the cell it becomes. A cell whose
code fits a byte comes back from its value exactly if it is not disguised. The cells that occur all
come back, their digits are at most nine, so that no code overflows, and each value is that of
exactly one of them. -/
theorem values_and_cells_correspond :
    (∀ v, (ofValue v).value = v) ∧
    (∀ cell : Cell, (∀ d, cell = digit d → d ≤ 207) →
      cell.CodeFits ∧ (ofValue cell.value = cell ↔ ¬ cell.Disguised)) ∧
    (∀ cell : Cell, cell.Occurs →
      ofValue cell.value = cell ∧ (∀ d, cell = digit d → d ≤ 9) ∧ cell.CodeFits) ∧
    ∀ v, ∃! cell : Cell, cell.Occurs ∧ cell.value = v := by
  refine ⟨value_ofValue, fun cell h => ⟨codeFits_of_le h, isCanonical_iff⟩, ?_, ?_⟩
  · intro cell hoccurs
    refine ⟨hoccurs.isCanonical, fun _ => hoccurs.le_nine, codeFits_of_le fun d hcell => ?_⟩
    exact UInt8.le_trans (hoccurs.le_nine hcell) (by decide)
  · intro v
    refine ⟨ofValue v, ⟨.stored v, value_ofValue v⟩, ?_⟩
    rintro cell ⟨hoccurs, rfl⟩
    exact hoccurs.isCanonical.symm

/-- The code point of `+` as a mere character comes back as the instruction, the largest digit with
a code as another character, and a surrogate as itself. -/
theorem values_and_cells_correspond_of_lookalikes :
    ofValue (other 43).value ≠ other 43 ∧
      (digit 207).CodeFits ∧ ofValue (digit 207).value ≠ digit 207 ∧
      ofValue (other 0xD800).value = other 0xD800 := by
  obtain ⟨-, hback, hoccur, -⟩ := values_and_cells_correspond
  have hplus : (other 43).Disguised := .other (.inr (.inr ⟨.add, rfl⟩))
  have hlargest : (digit 207).Disguised := .digit (by decide)
  obtain ⟨hfits, hdigit⟩ := hback (digit 207) fun d hd => Cell.digit.inj hd ▸ UInt8.le_refl 207
  refine ⟨fun h => ?_, hfits, fun h => hdigit.mp h hlargest, ?_⟩
  · exact (hback (other 43) nofun).2.mp h hplus
  · exact (hoccur _ (.stored 0xD800)).1

end Funge.Cell
