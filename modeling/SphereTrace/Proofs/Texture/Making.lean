import SphereTrace.Proofs.Texture.Parameters

/-! # Instances that can be made

An instance starts from a kind and is changed by a handful of operations only, whether it is
registered or not. Everything that a caller can register is made this way, so what holds of all made
instances holds of all instances in a registry.
-/

namespace SphereTrace

open Glsl (DataType Value)

namespace Glsl.Value

@[simp] theorem dataType_zero (type : DataType) : (zero type).dataType = type :=
  dataType_broadcast _ _

theorem dataType_of_ofComponents? {type : DataType} {components : List Binary32} {value : Value}
    (h : ofComponents? type components = some value) : value.dataType = type := by
  unfold ofComponents? at h
  split at h <;> cases h
  · exact dataType_broadcast _ _
  all_goals rfl

end Glsl.Value

theorem Input.dataType_of_resolve? {input : Input} {type : DataType} {value : Value}
    (h : input.resolve? type = some value) : value.dataType = type := by
  unfold Input.resolve? at h
  split at h <;> cases h
  · rfl
  · exact Value.dataType_broadcast _ _
  · exact Value.dataType_broadcast _ _
  all_goals rfl

namespace Texture

theorem Parameter.dataType_defaultValue (p : Parameter) : p.defaultValue.dataType = p.type := by
  unfold Parameter.defaultValue
  cases hvalue : Value.ofComponents? p.type p.default with
  | none => exact Value.dataType_zero p.type
  | some value => exact Value.dataType_of_ofComponents? hvalue

theorem Kind.isSome_source?_defaultVariant? {k : Kind} {variant : Variant}
    (h : k.defaultVariant? = some variant) : (k.source? variant).isSome := by
  unfold Kind.defaultVariant? at h
  split at h
  next hsolid => cases h; exact hsolid
  next =>
    split at h
    next hplanar => cases h; exact hplanar
    next => cases h

namespace Instance

theorem dataType_seed (overrides : Overrides) (p : Parameter) :
    (seed overrides p).dataType = p.type := by
  unfold seed
  cases hvalue : (overrides.get? p.name).bind fun input => input.resolve? p.type with
  | none => exact p.dataType_defaultValue
  | some value =>
      obtain ⟨input, _, hresolve⟩ := Option.bind_eq_some_iff.mp hvalue
      exact Input.dataType_of_resolve? hresolve

/-- One operation on an instance. Registration is not among them: it works on a copy. -/
inductive Change : Instance → Instance → Prop where
  | set {t t' : Instance} {name : String} {input : Input} :
      t.set name input = .ok t' → Change t t'
  | setVariant {t t' : Instance} {variant : Variant} :
      t.setVariant variant = .ok t' → Change t t'
  | markDirty (t : Instance) : Change t t.markDirty
  | bind (t : Instance) (locations : Locations) : Change t (t.bind locations)
  | upload (t : Instance) : Change t t.upload.1

/-- The instances that a caller can come by: new ones, changed ones, and what a registry holds in
their place after a registration. -/
inductive Made : Instance → Prop where
  | ofKind {t : Instance} {kind : Kind} {overrides : Overrides} {warnings : List Warning} :
      ofKind kind overrides = .ok (t, warnings) → Made t
  | change {t t' : Instance} : Made t → Change t t' → Made t'
  | assignNumber {t : Instance} (number : Nat) : Made t → Made (t.assignNumber number)

/-- The uniforms fit the parameters, and the selected variant has a source. -/
structure WellFormed (t : Instance) : Prop where
  types : t.uniforms.map Uniform.dataType = t.kind.parameters.map Parameter.type
  selected : (t.kind.source? t.variant).isSome

/-- The instance carries a number, and its uniforms are named after it. -/
structure NumberedAs (t : Instance) (number : Nat) : Prop where
  number_eq : t.number = some number
  names : t.uniforms.map Uniform.name = t.kind.parameters.map (boundName number)

theorem map_set_self {α β : Type} (g : α → β) {xs : List α} {place : Nat} {x y : α}
    (hx : xs[place]? = some x) (hy : g y = g x) : (xs.set place y).map g = xs.map g := by
  obtain ⟨hlt, rfl⟩ := List.getElem?_eq_some_iff.mp hx
  rw [List.map_set, hy, ← List.getElem_map g (h := by simpa using hlt), List.set_getElem_self]

namespace Change

variable {t t' : Instance}

@[simp] theorem kind_eq (h : Change t t') : t'.kind = t.kind := by
  cases h with
  | set hset => obtain ⟨_, _, _, _, _, _, rfl⟩ := set_eq_ok hset; rfl
  | setVariant hset => obtain ⟨_, rfl⟩ := setVariant_eq_ok hset; rfl
  | markDirty => rfl
  | bind => rfl
  | upload => rfl

theorem number_eq (h : Change t t') : t'.number = t.number := by
  cases h with
  | set hset => obtain ⟨_, _, _, _, _, _, rfl⟩ := set_eq_ok hset; rfl
  | setVariant hset => obtain ⟨_, rfl⟩ := setVariant_eq_ok hset; rfl
  | markDirty => rfl
  | bind => rfl
  | upload => rfl

theorem names_eq (h : Change t t') :
    t'.uniforms.map Uniform.name = t.uniforms.map Uniform.name := by
  cases h with
  | set hset =>
      obtain ⟨_, _, _, _, hu, _, rfl⟩ := set_eq_ok hset
      exact map_set_self Uniform.name hu rfl
  | setVariant hset => obtain ⟨_, rfl⟩ := setVariant_eq_ok hset; rfl
  | markDirty => simp [Instance.markDirty, Uniform.markDirty, Function.comp_def]
  | bind => exact map_mapBacked_fst _ (fun _ => rfl) _ _
  | upload => exact map_mapBacked_fst _ Uniform.name_upload _ _

/-- No operation changes the type of a uniform. -/
theorem types_eq (h : Change t t') :
    t'.uniforms.map Uniform.dataType = t.uniforms.map Uniform.dataType := by
  cases h with
  | set hset =>
      obtain ⟨_, _, _, _, hu, hvalue, rfl⟩ := set_eq_ok hset
      exact map_set_self Uniform.dataType hu (Input.dataType_of_resolve? hvalue)
  | setVariant hset => obtain ⟨_, rfl⟩ := setVariant_eq_ok hset; rfl
  | markDirty =>
      simp [Instance.markDirty, Uniform.markDirty, Uniform.dataType, Function.comp_def]
  | bind => exact map_mapBacked_fst _ (fun _ => rfl) _ _
  | upload => exact map_mapBacked_fst _ (fun u => by simp [Uniform.dataType]) _ _

theorem selected (h : Change t t') (hselected : (t.kind.source? t.variant).isSome) :
    (t'.kind.source? t'.variant).isSome := by
  cases h with
  | set hset => obtain ⟨_, _, _, _, _, _, rfl⟩ := set_eq_ok hset; exact hselected
  | setVariant hset => obtain ⟨hsource, rfl⟩ := setVariant_eq_ok hset; exact hsource
  | markDirty => exact hselected
  | bind => exact hselected
  | upload => exact hselected

theorem wellFormed (h : Change t t') (ht : t.WellFormed) : t'.WellFormed where
  types := by rw [h.types_eq, h.kind_eq, ht.types]
  selected := h.selected ht.selected

theorem numberedAs (h : Change t t') {number : Nat} (ht : t.NumberedAs number) :
    t'.NumberedAs number where
  number_eq := by rw [h.number_eq, ht.number_eq]
  names := by rw [h.names_eq, h.kind_eq, ht.names]

end Change

theorem wellFormed_ofKind {t : Instance} {kind : Kind} {overrides : Overrides}
    {warnings : List Warning} (h : ofKind kind overrides = .ok (t, warnings)) : t.WellFormed := by
  unfold ofKind at h
  split at h
  next => cases h
  next variant hvariant =>
    obtain ⟨rfl, _⟩ := Prod.mk.inj (Except.ok.inj h)
    refine ⟨?_, Kind.isSome_source?_defaultVariant? hvariant⟩
    simp [Uniform.dataType, dataType_seed, Function.comp_def]

theorem kind_ofKind {t : Instance} {kind : Kind} {overrides : Overrides}
    {warnings : List Warning} (h : ofKind kind overrides = .ok (t, warnings)) : t.kind = kind := by
  unfold ofKind at h
  split at h
  next => cases h
  next =>
    obtain ⟨rfl, _⟩ := Prod.mk.inj (Except.ok.inj h)
    rfl

theorem WellFormed.length_uniforms {t : Instance} (ht : t.WellFormed) :
    t.uniforms.length = t.kind.parameters.length := by
  simpa using congrArg List.length ht.types

theorem WellFormed.dataType_eq {t : Instance} (ht : t.WellFormed) {p : Parameter} {u : Uniform}
    (hmem : (p, u) ∈ t.parameters) : u.dataType = p.type := by
  obtain ⟨place, hplace⟩ := List.mem_iff_getElem?.mp hmem
  obtain ⟨hp, hu⟩ := getElem?_parameters.mp hplace
  have htype := congrArg (fun types => types[place]?) ht.types
  simpa [hp, hu] using htype

/-- A registration keeps the types and gives every uniform the name of its parameter. -/
theorem WellFormed.assignNumber {t : Instance} (ht : t.WellFormed) (number : Nat) :
    (t.assignNumber number).WellFormed ∧ (t.assignNumber number).NumberedAs number := by
  have hlength := ht.length_uniforms
  refine ⟨⟨?_, ht.selected⟩, ⟨rfl, ?_⟩⟩
  · rw [kind_assignNumber, ← ht.types]
    simp only [Instance.assignNumber, parameters, List.map_map]
    change (t.kind.parameters.zip t.uniforms).map (Uniform.dataType ∘ Prod.snd) = _
    rw [← List.map_map, List.map_snd_zip (by omega)]
  · rw [kind_assignNumber]
    simp only [Instance.assignNumber, parameters, List.map_map]
    change (t.kind.parameters.zip t.uniforms).map (boundName number ∘ Prod.fst) = _
    rw [← List.map_map, List.map_fst_zip (by omega)]

theorem Made.wellFormed {t : Instance} (h : t.Made) : t.WellFormed := by
  induction h with
  | ofKind hnew => exact wellFormed_ofKind hnew
  | change _ hchange ih => exact hchange.wellFormed ih
  | assignNumber number _ ih => exact (ih.assignNumber number).1

end Instance

end Texture

end SphereTrace
