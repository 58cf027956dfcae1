import SphereTrace.Proofs.Text.Lines
import SphereTrace.Proofs.Text.Words

/-! # Legible names

A name without blanks and punctuation comes back as it was written, whatever it is written into: it
is one word of one line, and no separator of a list is found in it.
-/

namespace SphereTrace

open Text (IsLine IsTrimmed IsWord)

/-- Can the character be part of a name that is to be read back out of a text? -/
def isLegible (c : Char) : Bool :=
  !Text.isBlank c && c != ',' && c != ';' && c != '(' && c != ')'

def Legible (name : String) : Prop :=
  ∀ c ∈ name.toList, isLegible c = true

instance (name : String) : Decidable (Legible name) :=
  List.decidableBAll (fun c => isLegible c = true) name.toList

theorem isLegible_iff {c : Char} :
    isLegible c = true ↔ Text.isBlank c = false ∧ c ≠ ',' ∧ c ≠ ';' ∧ c ≠ '(' ∧ c ≠ ')' := by
  simp [isLegible, and_assoc]

/-- Letters, digits and underscores are legible. -/
theorem isLegible_of_isAlphanum {c : Char} (h : c.isAlphanum = true ∨ c = '_') :
    isLegible c = true := by
  rcases h with h | rfl
  · have hranges : (65 ≤ c.toNat ∧ c.toNat ≤ 90 ∨ 97 ≤ c.toNat ∧ c.toNat ≤ 122) ∨
        48 ≤ c.toNat ∧ c.toNat ≤ 57 := by
      delta Char.isAlphanum Char.isAlpha Char.isUpper Char.isLower Char.isDigit at h
      simpa [UInt32.le_iff_toNat_le] using h
    have hne : ∀ d : Char, d.toNat < 48 ∨ d.toNat = 59 → c ≠ d := by
      rintro d hd rfl
      omega
    refine isLegible_iff.mpr ⟨?_, hne _ (by decide), hne _ (by decide), hne _ (by decide),
      hne _ (by decide)⟩
    simp only [Text.isBlank, Bool.or_eq_false_iff, Bool.and_eq_false_iff, beq_eq_false_iff_ne,
      decide_eq_false_iff_not]
    omega
  · decide

theorem Legible.isWord {name : String} (h : Legible name) (hne : name ≠ "") :
    IsWord name.toList where
  ne_nil := fun hnil => hne (String.toList_eq_nil_iff.mp hnil)
  not_blank := fun c hc => (isLegible_iff.mp (h c hc)).1

theorem ne_lineEnd_of_not_blank {c : Char} (h : Text.isBlank c = false) : c ≠ '\n' ∧ c ≠ '\r' := by
  constructor <;> rintro rfl <;> revert h <;> decide

theorem Legible.isLine {name : String} (h : Legible name) : IsLine name.toList :=
  fun c hc => ne_lineEnd_of_not_blank (isLegible_iff.mp (h c hc)).1

theorem Legible.isTrimmed {name : String} (h : Legible name) : IsTrimmed name.toList where
  first := by
    cases hfirst : name.toList.head? with
    | none => rfl
    | some c => exact (isLegible_iff.mp (h c (List.mem_of_mem_head? hfirst))).1
  last := by
    cases hlast : name.toList.getLast? with
    | none => rfl
    | some c => exact (isLegible_iff.mp (h c (List.mem_of_mem_getLast? hlast))).1

end SphereTrace
