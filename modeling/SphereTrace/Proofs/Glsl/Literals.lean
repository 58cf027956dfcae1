import SphereTrace.Glsl.Value
import SphereTrace.Proofs.Ron.Decimals
import SphereTrace.Proofs.Text.Arguments

/-! # The look of constants

A number is written with digits, a point, a sign and the letter of an exponent, whatever number it
is. Constants therefore can be read back like names, and are never names of uniforms.
-/

namespace SphereTrace

/-- Can the character be part of a number? -/
def isNumeral (c : Char) : Bool :=
  c.isDigit || c == '.' || c == '-' || c == 'e'

def Numeral (cs : List Char) : Prop :=
  ∀ c ∈ cs, isNumeral c = true

instance (cs : List Char) : Decidable (Numeral cs) :=
  List.decidableBAll (fun c => isNumeral c = true) cs

theorem isNumeral_of_isDigit {c : Char} (h : c.isDigit = true) : isNumeral c = true := by
  simp [isNumeral, h]

theorem isLegible_of_isNumeral {c : Char} (h : isNumeral c = true) : isLegible c = true := by
  simp only [isNumeral, Bool.or_eq_true, beq_iff_eq] at h
  rcases h with ((hdigit | rfl) | rfl) | rfl
  · exact isLegible_of_isAlphanum (.inl (by simp [Char.isAlphanum, hdigit]))
  · decide
  · decide
  · decide

theorem Numeral.append {cs ds : List Char} (hcs : Numeral cs) (hds : Numeral ds) :
    Numeral (cs ++ ds) :=
  fun c hc => (List.mem_append.mp hc).elim (hcs c) (hds c)

theorem Numeral.cons {c : Char} {cs : List Char} (hc : isNumeral c = true) (hcs : Numeral cs) :
    Numeral (c :: cs) :=
  fun d hd => (List.mem_cons.mp hd).elim (fun heq => heq ▸ hc) (hcs d)

theorem Numeral.replicate {c : Char} (hc : isNumeral c = true) (n : Nat) :
    Numeral (List.replicate n c) :=
  fun _ hd => (List.mem_replicate.mp hd).2 ▸ hc

theorem numeral_toString_nat (n : Nat) : Numeral (toString n).toList := by
  intro c hc
  rw [Nat.toString_eq_repr, Nat.toList_repr] at hc
  exact isNumeral_of_isDigit (Nat.isDigit_of_mem_toDigits (by omega) (Nat.le_refl 10) hc)

theorem numeral_toString_int (n : Int) : Numeral (toString n).toList := by
  have hdigits : Numeral (Nat.toDigits 10 n.natAbs) := fun c hc =>
    isNumeral_of_isDigit (Ron.Reader.Digital.toDigits _ c hc)
  rw [Ron.Reader.toList_toString_int]
  cases decide (n < 0) with
  | true => exact .cons (by decide) hdigits
  | false => exact hdigits

theorem toString_int_ne_empty (n : Int) : (toString n).toList ≠ [] := by
  rw [Ron.Reader.toList_toString_int]
  cases decide (n < 0) with
  | true => exact List.cons_ne_nil _ _
  | false => exact Nat.toDigits_ne_nil

namespace Decimal

theorem numeral_ofScaled (n places : Nat) : Numeral (Digits.ofScaled n places).digits := by
  intro c hc
  have hc := (List.dropWhile_sublist _).mem (List.mem_reverse.mp hc)
  exact isNumeral_of_isDigit
    (Nat.isDigit_of_mem_toDigits (by omega) (Nat.le_refl 10) (List.mem_reverse.mp hc))

/-- Whatever the grids are, the search ends with the digits of a number. -/
theorem numeral_search (grid : Nat → Option Nat) (uncut places : Nat) :
    Numeral (search grid uncut places).digits := by
  induction places with
  | zero => exact numeral_ofScaled _ _
  | succ places ih =>
      unfold search
      split
      next => exact numeral_ofScaled _ _
      next => exact ih

theorem numeral_positional {d : Digits} (h : Numeral d.digits) : Numeral (positional d) := by
  unfold positional
  split
  next => exact .cons (by decide) (.cons (by decide) ((Numeral.replicate (by decide) _).append h))
  next =>
    have htake : Numeral (d.digits.take d.point.toNat) := fun c hc => h c (List.mem_of_mem_take hc)
    have hdrop : Numeral (d.digits.drop d.point.toNat) := fun c hc => h c (List.mem_of_mem_drop hc)
    refine (htake.append (Numeral.replicate (by decide) _)).append (.cons (by decide) ?_)
    split
    next => exact .cons (by decide) nofun
    next => exact hdrop

theorem numeral_scientific {d : Digits} (h : Numeral d.digits) : Numeral (scientific d) := by
  unfold scientific
  refine Numeral.append ?_ (.cons (by decide) (numeral_toString_int _))
  split
  next first second rest hdigits =>
    rw [hdigits] at h
    intro c hc
    rcases List.mem_cons.mp hc with rfl | hc
    · exact h _ List.mem_cons_self
    · rcases List.mem_cons.mp hc with rfl | hc
      · decide
      · exact h c (List.mem_cons_of_mem _ hc)
  next => exact h

theorem numeral_layout (range : PositionalRange) {d : Digits} (h : Numeral d.digits) :
    Numeral (range.layout d) ∧ range.layout d ≠ [] := by
  unfold PositionalRange.layout
  split
  next => exact ⟨numeral_positional h, by unfold positional; split <;> simp⟩
  next => exact ⟨numeral_scientific h, by simp [scientific]⟩

/-- A number is written with the characters of numbers only, and with at least one. -/
theorem numeral_render (range : PositionalRange) (x : Binary32) :
    Numeral (range.render x).toList ∧ (range.render x).toList ≠ [] := by
  have hdigits : Numeral (shortest x.magnitude).digits := by
    rw [shortest]
    exact numeral_search _ _ _
  have hlayout := numeral_layout range hdigits
  rw [PositionalRange.render, String.toList_ofList]
  generalize range.layout (shortest x.magnitude) = cs at hlayout ⊢
  have hbody : Numeral (if x.isZero then ['0', '.', '0'] else cs) ∧
      (if x.isZero then ['0', '.', '0'] else cs) ≠ [] := by
    split
    next => exact ⟨by decide, by simp⟩
    next => exact hlayout
  split
  next => exact ⟨.cons (by decide) hbody.1, by simp⟩
  next => exact hbody

end Decimal

namespace Glsl

theorem numeral_floatLiteral (x : Binary32) :
    Numeral (floatLiteral x).toList ∧ (floatLiteral x).toList ≠ [] := by
  unfold floatLiteral
  split
  next => exact Decimal.numeral_render _ _
  next => exact ⟨by decide, by decide⟩

theorem numeral_intLiteral (n : Int32) :
    Numeral (intLiteral n).toList ∧ (intLiteral n).toList ≠ [] :=
  ⟨numeral_toString_int _, toString_int_ne_empty _⟩

theorem legible_of_numeral {s : String} (h : Numeral s.toList) : Legible s :=
  fun c hc => isLegible_of_isNumeral (h c hc)

theorem mem_intercalate {sep : List Char} {xs : List (List Char)} {c : Char}
    (h : c ∈ sep.intercalate xs) : c ∈ sep ∨ ∃ x ∈ xs, c ∈ x := by
  induction xs with
  | nil => cases h
  | cons x rest ih =>
      cases rest with
      | nil =>
          rw [List.intercalate_singleton] at h
          exact .inr ⟨x, List.mem_cons_self, h⟩
      | cons y others =>
          rw [List.intercalate_cons_cons, List.mem_append, List.mem_append] at h
          rcases h with (hx | hsep) | hrest
          · exact .inr ⟨x, List.mem_cons_self, hx⟩
          · exact .inl hsep
          · exact (ih hrest).imp_right fun ⟨z, hz, hc⟩ => ⟨z, List.mem_cons_of_mem _ hz, hc⟩

/-- The components of a vector, as they stand between its parentheses. -/
theorem mem_components {components : List Binary32} {c : Char}
    (h : c ∈ [',', ' '].intercalate (components.map fun x => (floatLiteral x).toList)) :
    c = ',' ∨ c = ' ' ∨ isNumeral c = true := by
  rcases mem_intercalate h with hsep | ⟨_, hx, hc⟩
  · simp only [List.mem_cons, List.not_mem_nil, or_false] at hsep
    exact hsep.imp_right .inl
  · obtain ⟨x, _, rfl⟩ := List.mem_map.mp hx
    exact .inr (.inr ((numeral_floatLiteral x).1 c hc))

theorem toList_vectorLiteral (components : List Binary32) :
    (vectorLiteral components).toList =
      ("vec" ++ toString components.length).toList ++ '(' ::
        ([',', ' '].intercalate (components.map fun x => (floatLiteral x).toList) ++ [')']) := by
  simp [vectorLiteral, Function.comp_def]

theorem isArgument_vectorLiteral (components : List Binary32) :
    Text.IsArgument (vectorLiteral components).toList := by
  have hname : Legible ("vec" ++ toString components.length) := by
    intro c hc
    rw [String.toList_append, List.mem_append] at hc
    rcases hc with hvec | hdigits
    · exact (by decide : Legible "vec") c hvec
    · exact isLegible_of_isNumeral (numeral_toString_nat _ c hdigits)
  rw [toList_vectorLiteral]
  apply Text.isArgument_constructor hname (by simp)
  · intro c hc
    rcases mem_components hc with rfl | rfl | hnumeral
    · decide
    · decide
    · exact ne_lineEnd_of_not_blank (isLegible_iff.mp (isLegible_of_isNumeral hnumeral)).1
  · intro c hc
    rcases mem_components hc with rfl | rfl | hnumeral
    · decide
    · decide
    · exact (isLegible_iff.mp (isLegible_of_isNumeral hnumeral)).2.2.2

/-- Every constant can be read back among the arguments of a call. -/
theorem isArgument_literal (v : Value) : Text.IsArgument v.literal.toList := by
  cases v with
  | int n => exact Text.isArgument_of_legible (legible_of_numeral (numeral_intLiteral n).1)
  | float x => exact Text.isArgument_of_legible (legible_of_numeral (numeral_floatLiteral x).1)
  | vec2 v => exact isArgument_vectorLiteral _
  | vec3 v => exact isArgument_vectorLiteral _
  | vec4 v => exact isArgument_vectorLiteral _

/-- No constant starts like the name of a registered uniform. -/
theorem head?_literal_ne (v : Value) : v.literal.toList.head? ≠ some 't' := by
  have hnumeral : ∀ {cs : List Char}, Numeral cs → cs.head? ≠ some 't' := fun h hhead =>
    absurd (h 't' (List.mem_of_mem_head? hhead)) (by decide)
  cases v with
  | int n => exact hnumeral (numeral_intLiteral n).1
  | float x => exact hnumeral (numeral_floatLiteral x).1
  | vec2 v | vec3 v | vec4 v => simp [Value.literal, toList_vectorLiteral]

end Glsl

end SphereTrace
