import Funge.Proofs.Effect
import Funge.Proofs.Loading

/-!
# Cells that stand for their value

Different cells can have the same value, but a program character and a stored value each become one
particular cell of their value: the canonical one. `Cell.ofValue_eq` says which cell that is without
going through characters. A playfield that was loaded from a text has canonical cells only, and no
step ever puts another kind of cell into it, so a running program sees nothing of a cell but its
value.
-/

namespace Funge

/-! ### Values of characters -/

namespace CodePoint

theorem value_injective {c d : Char} (h : value c = value d) : c = d := by
  have hc : char? (value c) = some d := by rw [h, char?_value]
  rw [char?_value] at hc
  exact Option.some.inj hc

/-- A character is a digit if its code point is. -/
theorem isDigit_iff {c : Char} : c.isDigit = true ↔ 48 ≤ value c ∧ value c ≤ 57 := by
  have h48 : (48 : Int64).toInt = 48 := rfl
  have h57 : (57 : Int64).toInt = 57 := rfl
  rw [Int64.le_iff_toInt_le, Int64.le_iff_toInt_le, toInt_value, h48, h57]
  simp only [Char.isDigit, Bool.and_eq_true, decide_eq_true_eq, UInt32.le_iff_toNat_le]
  change 48 ≤ c.toNat ∧ c.toNat ≤ 57 ↔ _
  omega

theorem exists_char {v : Int64} (h : 48 ≤ v ∧ v ≤ 57) : ∃ c, value c = v := by
  obtain ⟨hlow, hhigh⟩ := h
  rw [Int64.le_iff_toInt_le] at hlow hhigh
  change 48 ≤ v.toInt at hlow
  change v.toInt ≤ 57 at hhigh
  have hvalid : 0 ≤ v.toInt ∧ v.toInt.toNat.isValidChar := by
    refine ⟨by omega, .inl ?_⟩
    omega
  have hchar : char? v = some (Char.ofNatAux v.toInt.toNat hvalid.2) := dif_pos hvalid
  exact ⟨_, value_of_char? hchar⟩

end CodePoint

namespace Instruction

/-- The instruction whose glyph has a value as its code point, if there is one. -/
def ofCodePoint? (v : Int64) : Option Instruction :=
  all.find? fun i => CodePoint.value i.glyph = v

@[simp] theorem ofCodePoint?_value (c : Char) : ofCodePoint? (CodePoint.value c) = ofGlyph? c := by
  rw [ofCodePoint?, ofGlyph?]
  congr 1
  funext i
  rw [decide_eq_decide]
  exact ⟨CodePoint.value_injective, congrArg CodePoint.value⟩

theorem ofCodePoint?_of_char?_eq_none {v : Int64} (h : CodePoint.char? v = none) :
    ofCodePoint? v = none := by
  rw [ofCodePoint?]
  rw [List.find?_eq_none]
  intro i _ hi
  rw [decide_eq_true_iff] at hi
  rw [← hi, CodePoint.char?_value] at h
  cases h

end Instruction

namespace Cell

/-- The cell of a value, by the value alone. -/
theorem ofValue_eq (v : Int64) :
    ofValue v =
      if 48 ≤ v ∧ v ≤ 57 then digit (UInt8.ofNat (v.toInt.toNat - 48))
      else if v = 32 then blank
      else match Instruction.ofCodePoint? v with
        | some i => instruction i
        | none => other v := by
  cases h : CodePoint.char? v with
  | none =>
      have hvalue : ∀ c, CodePoint.value c ≠ v := by
        rintro c rfl
        rw [CodePoint.char?_value] at h
        cases h
      have hdigit : ¬ (48 ≤ v ∧ v ≤ 57) := by
        intro hd
        obtain ⟨c, hc⟩ := CodePoint.exists_char hd
        exact hvalue c hc
      have hblank : v ≠ 32 := fun hb => hvalue ' ' hb.symm
      rw [if_neg hdigit, if_neg hblank, Instruction.ofCodePoint?_of_char?_eq_none h, ofValue, h]
      rfl
  | some c =>
      obtain rfl := CodePoint.value_of_char? h
      have hblank : c = ' ' ↔ CodePoint.value c = 32 :=
        ⟨fun hb => by rw [hb]; rfl, fun hb => CodePoint.value_injective (d := ' ') hb⟩
      rw [ofValue_value, ofChar, Instruction.ofCodePoint?_value, CodePoint.toInt_value,
        Int.toNat_natCast]
      refine ite_congr (propext CodePoint.isDigit_iff) (fun _ => rfl) fun _ => ?_
      exact ite_congr (propext hblank) (fun _ => rfl) fun _ => rfl

/-- The digit of a value is as far from zero as its character is from the character zero. -/
theorem ofNat_digit {v : Int64} (h : 48 ≤ v ∧ v ≤ 57) :
    Int64.ofNat (UInt8.ofNat (v.toInt.toNat - 48)).toNat = v - 48 := by
  obtain ⟨c, rfl⟩ := CodePoint.exists_char h
  have hd := value_digit (CodePoint.isDigit_iff.mpr h)
  rw [CodePoint.toInt_value, Int.toNat_natCast]
  rw [value] at hd
  rw [← hd, Int64.ofNat_add, Int64.add_comm]
  exact (Int64.add_sub_cancel _ 48).symm

/-- A cell that is the one its value becomes. -/
def IsCanonical (cell : Cell) : Prop := ofValue cell.value = cell

instance (cell : Cell) : Decidable cell.IsCanonical :=
  inferInstanceAs (Decidable (_ = _))

theorem isCanonical_ofValue (v : Int64) : (ofValue v).IsCanonical := by
  rw [IsCanonical, value_ofValue]

theorem isCanonical_ofChar (c : Char) : (ofChar c).IsCanonical := by
  rw [IsCanonical, value_ofChar, ofValue_value]

theorem isCanonical_blank : blank.IsCanonical := isCanonical_ofChar ' '

end Cell

/-! ### Playfields of canonical cells -/

namespace Playfield

/-- All cells of a playfield are canonical. -/
def IsCanonical (f : Playfield) : Prop :=
  ∀ p cell, f.read p = .ok cell → cell.IsCanonical

/-- A playfield that is loaded from a text holds what the characters become. -/
theorem isCanonical_ofSource? {source : String} {f : Playfield} (h : ofSource? source = some f) :
    f.IsCanonical := by
  intro p cell hread
  rw [read_ofRows? h (contains_of_read hread)] at hread
  obtain rfl := Except.ok.inj hread
  rw [Position.lookup?_map]
  cases p.lookup? (Lines.rows source.toList) with
  | none => exact Cell.isCanonical_blank
  | some c => exact Cell.isCanonical_ofChar c

/-- A value that is stored keeps the playfield canonical, whatever value it is. -/
theorem IsCanonical.write {f g : Playfield} (h : f.IsCanonical) {p : Position} {v : Int64}
    (hw : f.write p (Cell.ofValue v) = .ok g) : g.IsCanonical := by
  intro q cell hread
  rw [read_write hw] at hread
  split at hread
  · obtain rfl := Except.ok.inj hread
    exact Cell.isCanonical_ofValue v
  · exact h q cell hread

end Playfield

theorem Machine.isCanonical_step {σ : Type} [Host σ] {m : Machine}
    (h : m.playfield.IsCanonical) (host : σ) : (m.step host).1.playfield.IsCanonical :=
  step_playfield h (fun _ _ _ hw => h.write hw) host

end Funge
