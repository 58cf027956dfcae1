import SphereTrace.Proofs.Binary32.Order
import SphereTrace.Proofs.Decimal.Reading
import SphereTrace.Proofs.Glsl.Grammar
import SphereTrace.Proofs.Glsl.Literals
import SphereTrace.Proofs.Uniform.Inputs

/-! # Reading constants back

Every value with finite components is written as a constant of the shading language that means this
value and no other, in type and bit for bit. A float that is not finite has no constant; what stands
for it is a zero.
-/

namespace SphereTrace.Glsl

open Ron.Reader (Digital signed wholeOf decimal? exponent?)

section Whole

variable {digits : List Char}

theorem digitalIn_ten (h : Digital digits) : DigitalIn 10 digits := by
  intro c hc
  have hle := Ron.Reader.toNat_sub_le_of_isDigit (h c hc)
  rw [hexDigit?_of_isDigit (h c hc), Option.any_some, decide_eq_true_eq]
  omega

theorem valueIn_ten (h : Digital digits) : valueIn 10 digits = wholeOf digits := by
  refine List.foldl_ext _ _ 0 fun n c hc => ?_
  rw [hexDigit?_of_isDigit (h c hc), Option.getD_some]

/-- The digits of a number other than zero do not start with one. -/
theorem head?_toDigits_ne {n : Nat} (h : 0 < n) : (Nat.toDigits 10 n).head? ≠ some '0' := by
  induction n using Nat.strongRecOn with
  | ind n ih =>
      rcases Nat.lt_or_ge n 10 with hlt | hge
      · rw [Nat.toDigits_of_lt_base hlt, List.head?_cons, ne_eq, Option.some_inj,
          Nat.digitChar_eq_zero]
        exact Nat.ne_of_gt h
      · rw [Nat.toDigits_of_base_le (by decide) hge,
          List.head?_append_of_ne_nil _ Nat.toDigits_ne_nil]
        exact ih (n / 10) (by omega) (by omega)

theorem integer_toDigits (n : Nat) : Integer (Nat.toDigits 10 n) n := by
  rcases Nat.eq_zero_or_pos n with rfl | hpos
  · exact Integer.octal (show DigitalIn 8 [] from nofun)
  · have h := Integer.decimal Nat.toDigits_ne_nil (head?_toDigits_ne hpos)
      (digitalIn_ten (Digital.toDigits n))
    rwa [valueIn_ten (Digital.toDigits n), Ron.Reader.wholeOf_toDigits] at h

theorem ite_neg_ofNat (n : Int32) :
    (if decide (n.toInt < 0) = true then -Int32.ofNat n.toInt.natAbs
      else Int32.ofNat n.toInt.natAbs) = n := by
  have habs := Ron.Reader.ite_neg_natAbs n.toInt
  rw [← Int32.ofInt_eq_ofNat, ← Int32.ofInt_neg, ← apply_ite Int32.ofInt, habs, Int32.ofInt_toInt]

/-- An int is read back, the least one too, whose absolute value is no int. -/
theorem scalar_intLiteral (n : Int32) : Scalar (intLiteral n).toList (.int n) := by
  have hfits : n.toInt.natAbs < 0x100000000 := by
    have habove := n.toInt_lt
    have hbelow := n.le_toInt
    omega
  have h := Scalar.int (decide (n.toInt < 0)) (integer_toDigits n.toInt.natAbs) hfits
  rwa [ite_neg_ofNat, ← Ron.Reader.toList_toString_int] at h

end Whole

section Float

variable {d : Decimal.Digits} {body : List Char} {significand : Nat} {e : Int}

/-- Floats of the shading language are read as decimals, whatever their form. -/
theorem decimal?_of_unsuffixed (negative : Bool) (h : Unsuffixed body significand e) :
    decimal? (signed negative body) = some (.ofDecimal negative significand e) := by
  cases h with
  | @point whole fraction hne hdigits =>
      have hread := Ron.Reader.decimal?_point negative hdigits.of_append_left
        hdigits.of_append_right hne (show ([] : List Char).head?.any Char.isDigit = false from rfl)
      rwa [List.append_nil, exponent?, Option.map_some, Int.zero_sub] at hread
  | both hne hdigits hpart =>
      rw [Ron.Reader.decimal?_point negative hdigits.of_append_left hdigits.of_append_right hne
        hpart.not_digit, hpart.exponent?_eq, Option.map_some]
  | exponent hne hdigits hpart =>
      have hread := hpart.exponent?_eq
      obtain ⟨letter, rest, rfl, hletter⟩ := hpart.head
      rw [Ron.Reader.decimal?_exponent negative hdigits hne hletter, hread, Option.map_some]

theorem exponent_toString (n : Int) : Exponent ('e' :: (toString n).toList) n := by
  have h := Exponent.signed (.inl rfl) (decide (n < 0)) Nat.toDigits_ne_nil
    (Digital.toDigits n.natAbs)
  rwa [Ron.Reader.wholeOf_toDigits, Ron.Reader.ite_neg_natAbs,
    ← Ron.Reader.toList_toString_int] at h

theorem exists_unsuffixed_positional (hd : Digital d.digits) :
    ∃ significand e, Unsuffixed (Decimal.positional d) significand e := by
  unfold Decimal.positional
  split
  next =>
    have hdigits : Digital (['0'] ++ (List.replicate (-d.point).toNat '0' ++ d.digits)) :=
      (Digital.replicate_zero 1).append ((Digital.replicate_zero _).append hd)
    exact ⟨_, _, .point (List.cons_ne_nil _ _) hdigits⟩
  next =>
    dsimp only
    have htake : Digital (d.digits.take d.point.toNat) := fun c hc => hd c (List.mem_of_mem_take hc)
    split
    next =>
      exact ⟨_, _, .point (by simp)
        ((htake.append (Digital.replicate_zero _)).append (Digital.replicate_zero 1))⟩
    next hfraction =>
      rw [List.isEmpty_iff] at hfraction
      exact ⟨_, _, .point (List.append_ne_nil_of_right_ne_nil _ hfraction)
        ((htake.append (Digital.replicate_zero _)).append
          fun c hc => hd c (List.mem_of_mem_drop hc))⟩

theorem exists_unsuffixed_scientific (hd : Digital d.digits) (hne : d.digits ≠ []) :
    ∃ significand e, Unsuffixed (Decimal.scientific d) significand e := by
  unfold Decimal.scientific
  dsimp only
  split
  next first second rest hdigits =>
    rw [hdigits] at hd
    have hall : Digital ([first] ++ second :: rest) := hd
    exact ⟨_, _, .both (List.cons_ne_nil _ _) hall (exponent_toString _)⟩
  next => exact ⟨_, _, .exponent hne hd (exponent_toString _)⟩

/-- Every float, finite or not, is written as a float of the grammar behind an optional minus. -/
theorem exists_unsuffixed_floatLiteral (x : Binary32) : ∃ negative body significand e,
    (floatLiteral x).toList = signed negative body ∧ Unsuffixed body significand e := by
  have hzero : ∃ significand e, Unsuffixed ['0', '.', '0'] significand e :=
    ⟨_, _, .point (List.cons_ne_nil _ _) (show Digital (['0'] ++ ['0']) from .replicate_zero 2)⟩
  unfold floatLiteral
  split
  next hfinite =>
    rw [Decimal.PositionalRange.render, String.toList_ofList]
    have hbody : ∃ significand e, Unsuffixed (if x.isZero then ['0', '.', '0'] else
        positionalRange.layout (Decimal.shortest x.magnitude)) significand e := by
      split
      next => exact hzero
      next hpos =>
        obtain ⟨hdigits, hne⟩ := Decimal.shortest_digits (of_decide_eq_true hfinite)
          (Nat.pos_of_ne_zero fun hmagnitude => hpos (beq_iff_eq.mpr hmagnitude))
        unfold Decimal.PositionalRange.layout
        split
        next => exact exists_unsuffixed_positional hdigits
        next => exact exists_unsuffixed_scientific hdigits hne
    obtain ⟨significand, e, hbody⟩ := hbody
    exact ⟨x.negative, _, significand, e, rfl, hbody⟩
  next =>
    obtain ⟨significand, e, hbody⟩ := hzero
    exact ⟨false, _, significand, e, rfl, hbody⟩

/-- The value of the constant of a finite float is the float. -/
theorem eq_ofDecimal_of_unsuffixed {x : Binary32} {negative : Bool}
    (hbody : (floatLiteral x).toList = signed negative body)
    (h : Unsuffixed body significand e) (hfinite : x.isFinite = true) :
    x = .ofDecimal negative significand e := by
  have hread := decimal?_floatLiteral hfinite
  rw [hbody, decimal?_of_unsuffixed negative h] at hread
  exact (Option.some.inj hread).symm

theorem scalar_floatLiteral {x : Binary32} (h : x.isFinite = true) :
    Scalar (floatLiteral x).toList (.float x) := by
  obtain ⟨negative, body, significand, e, hbody, hfloat⟩ := exists_unsuffixed_floatLiteral x
  have hvalue := Scalar.float negative (.plain hfloat)
  rwa [← hbody, ← eq_ofDecimal_of_unsuffixed hbody hfloat h] at hvalue

/-- No int is written like a float. -/
theorem intLiteral_ne_floatLiteral (n : Int32) (x : Binary32) : intLiteral n ≠ floatLiteral x := by
  intro heq
  obtain ⟨negative, body, significand, e, hbody, hfloat⟩ := exists_unsuffixed_floatLiteral x
  have hvalue := scalar?_eq_some_iff.mpr (Scalar.float negative (.plain hfloat))
  rw [← hbody, ← heq, scalar?_eq_some_iff.mpr (scalar_intLiteral n)] at hvalue
  cases hvalue

theorem point_or_exponent_mem_floatLiteral (x : Binary32) :
    '.' ∈ (floatLiteral x).toList ∨ 'e' ∈ (floatLiteral x).toList := by
  obtain ⟨negative, body, significand, e, hbody, hfloat⟩ := exists_unsuffixed_floatLiteral x
  obtain ⟨mark, hmem, hmark⟩ := hfloat.exists_mark
  have hmem : mark ∈ (floatLiteral x).toList := by
    rw [hbody]
    cases negative with
    | true => exact List.mem_cons_of_mem _ hmem
    | false => exact hmem
  rcases hmark with rfl | rfl | rfl
  · exact .inl hmem
  · exact .inr hmem
  · exact absurd ((numeral_floatLiteral x).1 'E' hmem) (by decide)

theorem floatLiteral_of_not_finite {x : Binary32} (h : x.isNaN = true ∨ x.isInfinite = true) :
    floatLiteral x = "0.0" := by
  refine if_neg fun hfinite => ?_
  rcases h with hnan | hinfinite
  · rw [Binary32.isNaN_of_isFinite hfinite] at hnan
    cases hnan
  · rw [Binary32.isInfinite_of_isFinite hfinite] at hinfinite
    cases hinfinite

end Float

section Vector

variable {components : List Binary32} {v : Value}

/-- The blank behind a comma is one in front of what follows. -/
theorem intercalate_comma_blank (first : List Char) (rest : List (List Char)) :
    [',', ' '].intercalate (first :: rest) = [','].intercalate (first :: rest.map (' ' :: ·)) := by
  induction rest generalizing first with
  | nil => rfl
  | cons second rest ih =>
      rw [List.intercalate_cons_cons, ih, List.map_cons, List.intercalate_cons_cons]
      cases rest with
      | nil => simp
      | cons => simp [List.intercalate_cons_cons]

theorem component_floatLiteral {x : Binary32} (h : x.isFinite = true) :
    Component (floatLiteral x).toList x :=
  ⟨[], _, [], (List.append_nil _).symm, rfl, rfl, scalar_floatLiteral h⟩

theorem Component.cons_blank {arg : List Char} {x : Binary32} (h : Component arg x) :
    Component (' ' :: arg) x := by
  obtain ⟨left, body, right, rfl, hleft, hright, hbody⟩ := h
  exact ⟨' ' :: left, body, right, rfl, hleft, hright, hbody⟩

theorem name_eq {type : DataType} (h : 1 < type.arity) :
    type.name = "vec" ++ toString type.arity := by
  cases type with
  | int | float => exact absurd h (by decide)
  | vec2 | vec3 | vec4 => decide

/-- The components of a vector are read back. -/
theorem components_literals (hne : components ≠ []) (h : ∀ x ∈ components, x.isFinite = true) :
    Components ([',', ' '].intercalate (components.map fun x => (floatLiteral x).toList))
      components := by
  obtain ⟨x, rest, rfl⟩ := List.exists_cons_of_ne_nil hne
  obtain ⟨hx, hrest⟩ := List.forall_mem_cons.mp h
  rw [List.map_cons, intercalate_comma_blank, List.map_map]
  refine ⟨_, List.cons_ne_nil _ _, rfl, .cons (component_floatLiteral hx) ?_⟩
  rw [List.forall₂_map_left_iff, List.forall₂_same]
  exact fun y hy => (component_floatLiteral (hrest y hy)).cons_blank

theorem constant_vectorLiteral {type : DataType} (hvector : 1 < type.arity)
    (hlength : components.length = type.arity) (h : ∀ x ∈ components, x.isFinite = true)
    (hvalue : Value.ofComponents? type components = some v) :
    Constant (vectorLiteral components).toList v := by
  have hne : components ≠ [] := List.ne_nil_of_length_pos (by omega)
  rw [toList_vectorLiteral, hlength, ← name_eq hvector]
  exact .constructor hvector (components_literals hne h) hvalue

end Vector

namespace Value

/-- No component is infinite or NaN. -/
def Finite (v : Value) : Prop :=
  ∀ x ∈ v.floats, x.isFinite = true

instance (v : Value) : Decidable v.Finite :=
  inferInstanceAs (Decidable (∀ x ∈ v.floats, x.isFinite = true))

/-- A finite value is written as a constant that means it. -/
theorem Finite.constant_literal {v : Value} (h : v.Finite) : Constant v.literal.toList v := by
  cases v with
  | int n => exact .scalar (scalar_intLiteral n)
  | float x => exact .scalar (scalar_floatLiteral (h x List.mem_cons_self))
  | vec2 v => exact constant_vectorLiteral (show 1 < DataType.vec2.arity by decide) rfl h rfl
  | vec3 v => exact constant_vectorLiteral (show 1 < DataType.vec3.arity by decide) rfl h rfl
  | vec4 v => exact constant_vectorLiteral (show 1 < DataType.vec4.arity by decide) rfl h rfl

theorem Finite.constant?_literal {v : Value} (h : v.Finite) : constant? v.literal.toList = some v :=
  constant?_eq_some_iff.mpr h.constant_literal

end Value

/-- Constants are read back by the reader of the grammar: every finite value, in type and bit for
bit, so that the constants of two of them differ. The constant of a float has a point or an exponent
and is never that of an int. For all floats it is a float of the grammar behind an optional minus;
those that are not finite have the constant of zero. -/
theorem literals_read_back :
    (∀ cs v, constant? cs = some v ↔ Constant cs v) ∧
    (∀ v : Value, v.Finite → constant? v.literal.toList = some v) ∧
    (∀ v w : Value, v.Finite → w.Finite → v.literal = w.literal → v = w) ∧
    (∀ n x, constant? (intLiteral n).toList = some (.int n) ∧ intLiteral n ≠ floatLiteral x) ∧
    (∀ x, '.' ∈ (floatLiteral x).toList ∨ 'e' ∈ (floatLiteral x).toList) ∧
    (∀ x, ∃ negative body significand e, (floatLiteral x).toList = signed negative body ∧
      Floating body significand e ∧
      (x.isFinite = true → x = .ofDecimal negative significand e)) ∧
    ∀ x : Binary32, x.isNaN = true ∨ x.isInfinite = true → floatLiteral x = "0.0" := by
  refine ⟨fun _ _ => constant?_eq_some_iff, fun _ => Value.Finite.constant?_literal, ?_, ?_,
    point_or_exponent_mem_floatLiteral, ?_, fun _ => floatLiteral_of_not_finite⟩
  · intro v w hv hw heq
    have hread := hv.constant?_literal
    rw [heq, hw.constant?_literal] at hread
    exact (Option.some.inj hread).symm
  · exact fun n x => ⟨constant?_eq_some_iff.mpr (.scalar (scalar_intLiteral n)),
      intLiteral_ne_floatLiteral n x⟩
  · intro x
    obtain ⟨negative, body, significand, e, hbody, hfloat⟩ := exists_unsuffixed_floatLiteral x
    exact ⟨negative, body, significand, e, hbody, .plain hfloat,
      eq_ofDecimal_of_unsuffixed hbody hfloat⟩

/-- A vector with a negative zero, the least float of all and one that is written with an exponent
because it is large, and the least int. -/
theorem literals_read_back_extremes :
    let v := Value.vec3 ⟨⟨0x80000000⟩, ⟨1⟩, ⟨0x5a0e1bca⟩⟩
    let w := Value.int (-0x80000000)
    v.literal = "vec3(-0.0, 1e-45, 1e16)" ∧ v.Finite ∧ constant? v.literal.toList = some v ∧
      w.literal = "-2147483648" ∧ w.Finite ∧ constant? w.literal.toList = some w ∧
      v.literal ≠ w.literal ∧ (⟨0x7fc00000⟩ : Binary32).isNaN = true ∧
      floatLiteral ⟨0x7fc00000⟩ = "0.0" := by
  intro v w
  obtain ⟨_, hread, hinj, _, _, _, hzero⟩ := literals_read_back
  have hv : v.Finite := by decide
  have hw : w.Finite := by decide
  have hnan : (⟨0x7fc00000⟩ : Binary32).isNaN = true := by decide
  refine ⟨by decide +kernel, hv, hread v hv, by decide +kernel, hw, hread w hw, ?_, hnan,
    hzero _ (.inl hnan)⟩
  exact fun heq => absurd (hinj v w hv hw heq) (by decide)

end SphereTrace.Glsl
