import SphereTrace.Proofs.Binary32.Whole
import SphereTrace.Proofs.Text.Words
import SphereTrace.Proofs.Texture.Overriding
import SphereTrace.Proofs.Uniform.Inputs

/-! # Well-formed kinds and their defaults

The check of a kind scans its parts in turn and stops at the first fault, but what it accepts is
told part by part. The defaults of an accepted kind are the listed ones, so the zero that stands in
for a list that does not fit is never seen.
-/

namespace SphereTrace

open Glsl (DataType Value)

namespace Glsl.Value

/-- The components that a list gives to a type: a single one is repeated for each. -/
def spread (type : DataType) : List Binary32 → List Binary32
  | [x] => List.replicate type.arity x
  | xs => xs

/-- The value has these components. An int has one, of which it is the whole part. -/
def Lists : Value → List Binary32 → Prop
  | int n, xs => ∃ x, xs = [x] ∧ x.IsWholePart n
  | v, xs => v.floats = xs

variable {type : DataType} {xs : List Binary32} {v : Value}

theorem lists_broadcast (type : DataType) (x : Binary32) :
    (broadcast type x).Lists (List.replicate type.arity x) := by
  cases type with
  | int => exact ⟨x, rfl, x.isWholePart_toInt32⟩
  | _ => rfl

/-- Components fit a type if there is a single one, or one for each of the type. -/
theorem isSome_ofComponents?_iff :
    (ofComponents? type xs).isSome ↔ xs.length = 1 ∨ xs.length = type.arity := by
  unfold ofComponents?
  split
  next => simp
  next => simp [DataType.arity]
  next => simp [DataType.arity]
  next => simp [DataType.arity]
  next hone htwo hthree hfour =>
    simp only [Option.isSome_none, Bool.false_eq_true, false_iff, not_or]
    constructor
    · intro h
      obtain ⟨x, rfl⟩ := List.length_eq_one_iff.mp h
      exact hone x rfl
    · intro h
      cases type with
      | int | float =>
          obtain ⟨x, rfl⟩ := List.length_eq_one_iff.mp h
          exact hone x rfl
      | vec2 =>
          obtain ⟨x, y, rfl⟩ := List.length_eq_two.mp h
          exact htwo x y rfl rfl
      | vec3 =>
          obtain ⟨x, y, z, rfl⟩ := List.length_eq_three.mp h
          exact hthree x y z rfl rfl
      | vec4 =>
          obtain ⟨x, y, z, w, rfl⟩ := List.length_eq_four.mp h
          exact hfour x y z w rfl rfl

theorem lists_of_ofComponents? (h : ofComponents? type xs = some v) : v.Lists (spread type xs) := by
  unfold ofComponents? at h
  split at h <;> cases h
  · exact lists_broadcast _ _
  all_goals rfl

end Glsl.Value

namespace Texture

open Glsl.Value (ofComponents? spread)

namespace Kind

/-- What is asked of a kind, part by part. -/
structure WellFormed (k : Kind) : Prop where
  named : ∃ c ∈ k.name.toList, Text.isBlank c = false
  sourced : ∃ variant, (k.source? variant).isSome
  entries : ∀ variant s, k.source? variant = some s → ∃ c ∈ s.entry.toList, Text.isBlank c = false
  distinct : (k.parameters.map Parameter.name).Nodup
  defaults : ∀ p ∈ k.parameters, p.default.length = 1 ∨ p.default.length = p.type.arity

variable {k : Kind}

theorem validate_iff_wellFormed : k.validate = .ok () ↔ k.WellFormed := by
  rw [validate_eq_ok_iff, fault?_eq_none_iff, parameterFault?_eq_none_iff, sources_ne_nil_iff]
  simp only [Text.isBlankText_eq_false_iff, mem_sources_iff, Value.isSome_ofComponents?_iff]
  constructor
  · rintro ⟨hnamed, hsourced, hentries, hdistinct, _, hdefaults⟩
    exact ⟨hnamed, hsourced, fun variant s hs => hentries s ⟨variant, hs⟩, hdistinct, hdefaults⟩
  · rintro ⟨hnamed, hsourced, hentries, hdistinct, hdefaults⟩
    exact ⟨hnamed, hsourced, fun s ⟨variant, hs⟩ => hentries variant s hs, hdistinct,
      fun _ _ => List.not_mem_nil, hdefaults⟩

end Kind

theorem Parameter.ofComponents?_eq_defaultValue {p : Parameter}
    (h : p.default.length = 1 ∨ p.default.length = p.type.arity) :
    ofComponents? p.type p.default = some p.defaultValue := by
  obtain ⟨v, hv⟩ := Option.isSome_iff_exists.mp (Value.isSome_ofComponents?_iff.mpr h)
  rw [defaultValue, hv, Option.getD_some]

namespace Instance

/-- An instance that is made without overrides has the default values. -/
theorem ofKind_empty {kind : Kind} {variant : Variant} (h : kind.defaultVariant? = some variant) :
    ofKind kind .empty = .ok (seeded kind variant Parameter.defaultValue, []) := by
  rw [ofKind_eq h, overrideWarnings_empty]
  rfl

theorem values_seeded (kind : Kind) (variant : Variant) (value : Parameter → Value) :
    (seeded kind variant value).uniforms.map Uniform.value = kind.parameters.map value := by
  simp only [seeded, List.map_map, Function.comp_def]

end Instance

namespace Kind

/-- Exactly the well-formed kinds are accepted. The default of each parameter of an accepted kind is
a value of its type with the listed components, and nothing takes their place; a new instance
without overrides is made without a warning and has these values, in the order of the parameters. -/
theorem validate_iff_wellFormed_and_defaults (k : Kind) :
    (k.validate = .ok () ↔ k.WellFormed) ∧
      (k.validate = .ok () →
        (∀ p ∈ k.parameters, ofComponents? p.type p.default = some p.defaultValue ∧
          p.defaultValue.dataType = p.type ∧ p.defaultValue.Lists (spread p.type p.default)) ∧
        ∃ t, Instance.ofKind k .empty = .ok (t, []) ∧ t.kind = k ∧
          t.uniforms.map Uniform.value = k.parameters.map Parameter.defaultValue) := by
  refine ⟨validate_iff_wellFormed, fun hvalid => ⟨?_, ?_⟩⟩
  · intro p hp
    have hdefault := p.ofComponents?_eq_defaultValue
      ((validate_iff_wellFormed.mp hvalid).defaults p hp)
    exact ⟨hdefault, p.dataType_defaultValue, Value.lists_of_ofComponents? hdefault⟩
  · obtain ⟨variant, hvariant⟩ :=
      Option.isSome_iff_exists.mp (isSome_defaultVariant?_of_validate hvalid)
    exact ⟨_, Instance.ofKind_empty hvariant, rfl, Instance.values_seeded _ _ _⟩

/-- A single component fills a vector, and a fraction is cut off for an int. -/
theorem validate_iff_wellFormed_and_defaults_tinted :
    let k : Kind := {
      name := "tinted", solid := some ⟨"tinted", "", []⟩
      parameters := [⟨"tint", .vec4, [0.5]⟩, ⟨"count", .int, [2.75]⟩, ⟨"scale", .vec2, [1, 2]⟩] }
    k.validate = .ok () ∧ k.WellFormed ∧
      ∃ t, Instance.ofKind k .empty = .ok (t, []) ∧
        t.uniforms.map Uniform.value =
          [.vec4 ⟨0.5, 0.5, 0.5, 0.5⟩, .int 2, .vec2 ⟨1, 2⟩] := by
  intro k
  have hvalid : k.validate = .ok () := by decide +kernel
  obtain ⟨hiff, hdefaults⟩ := validate_iff_wellFormed_and_defaults k
  obtain ⟨_, t, hnew, _, hvalues⟩ := hdefaults hvalid
  exact ⟨hvalid, hiff.mp hvalid, t, hnew, hvalues.trans (by decide +kernel)⟩

end Kind

end Texture

end SphereTrace
