import SphereTrace.Texture.Instance

/-! # Operations on the parameters of an instance

What an operation does to an instance is said once, through the list of parameters with their
uniforms. Later statements about locations, dirtiness and writes read that list; they do not open
the operations again.
-/

namespace SphereTrace

namespace Uniform

variable (u : Uniform)

@[simp] theorem name_upload : u.upload.1.name = u.name := by
  unfold upload
  split <;> rfl

@[simp] theorem value_upload : u.upload.1.value = u.value := by
  unfold upload
  split <;> rfl

@[simp] theorem location_upload : u.upload.1.location = u.location := by
  unfold upload
  split <;> rfl

@[simp] theorem dirty_upload : u.upload.1.dirty = false := by
  unfold upload
  split
  next => rfl
  next hclean => exact Bool.not_eq_true _ ▸ hclean

/-- A clean uniform has nothing to upload. -/
theorem upload_of_clean {u : Uniform} (h : u.dirty = false) : u.upload = (u, none) := by
  simp [upload, h]

end Uniform

namespace Texture.Instance

section Backed

variable {β : Type} (f : Uniform → Uniform × β)

/-- Applies a change to the uniforms that stand in the program, and to no other. -/
def onBacked (f : Uniform → Uniform) (entry : Parameter × Uniform) : Parameter × Uniform :=
  (entry.1, if entry.1.isUniform then f entry.2 else entry.2)

theorem zip_mapBacked_fst (ps : List Parameter) (us : List Uniform) :
    ps.zip (mapBacked f ps us).1 = (ps.zip us).map (onBacked fun u => (f u).1) := by
  induction ps generalizing us with
  | nil => rfl
  | cons p rest ih =>
      cases us with
      | nil => rfl
      | cons u others =>
          have htail := ih others
          by_cases hp : p.isUniform <;> simp [mapBacked, onBacked, hp, htail]

theorem mapBacked_snd (ps : List Parameter) (us : List Uniform) :
    (mapBacked f ps us).2 =
      ((ps.zip us).filter fun entry => entry.1.isUniform).map fun entry => (f entry.2).2 := by
  induction ps generalizing us with
  | nil => rfl
  | cons p rest ih =>
      cases us with
      | nil => rfl
      | cons u others =>
          have htail := ih others
          by_cases hp : p.isUniform <;> simp [mapBacked, hp, htail]

/-- What a change of single uniforms keeps is kept in the whole list. -/
theorem map_mapBacked_fst {γ : Type} {g : Uniform → γ} (hg : ∀ u, g (f u).1 = g u)
    (ps : List Parameter) (us : List Uniform) :
    (mapBacked f ps us).1.map g = us.map g := by
  induction ps generalizing us with
  | nil => cases us <;> rfl
  | cons p rest ih =>
      cases us with
      | nil => rfl
      | cons u others =>
          have htail := ih others
          by_cases hp : p.isUniform <;> simp [mapBacked, hp, hg, htail]

end Backed

variable {t t' : Instance}

@[simp] theorem kind_assignNumber (number : Nat) : (t.assignNumber number).kind = t.kind := rfl

theorem parameters_bind (locations : Locations) :
    (t.bind locations).parameters = t.parameters.map (onBacked fun u => u.bind locations) :=
  zip_mapBacked_fst _ _ _

theorem parameters_upload :
    t.upload.1.parameters = t.parameters.map (onBacked fun u => u.upload.1) :=
  zip_mapBacked_fst _ _ _

theorem parameters_markDirty :
    t.markDirty.parameters = t.parameters.map fun entry => (entry.1, entry.2.markDirty) := by
  simp only [parameters, markDirty, List.zip_map_right]
  rfl

theorem zip_map_zip {α β γ : Type} (xs : List α) (ys : List β) (g : α × β → γ) :
    xs.zip ((xs.zip ys).map g) = (xs.zip ys).map fun entry => (entry.1, g entry) := by
  induction xs generalizing ys with
  | nil => rfl
  | cons x rest ih =>
      cases ys with
      | nil => rfl
      | cons y others => simp [ih]

theorem parameters_assignNumber (number : Nat) :
    (t.assignNumber number).parameters =
      t.parameters.map fun entry => (entry.1, entry.2.rename (boundName number entry.1)) :=
  zip_map_zip _ _ _

theorem getElem?_parameters {place : Nat} {p : Parameter} {u : Uniform} :
    t.parameters[place]? = some (p, u) ↔
      t.kind.parameters[place]? = some p ∧ t.uniforms[place]? = some u := by
  simp only [parameters, List.getElem?_zip_eq_some]

theorem mem_declared {u : Uniform} :
    u ∈ t.declared ↔ ∃ p, (p, u) ∈ t.parameters ∧ p.isUniform = true := by
  simp only [declared, List.mem_map, List.mem_filter]
  constructor
  · rintro ⟨⟨p, v⟩, hmem, rfl⟩
    exact ⟨p, hmem⟩
  · rintro ⟨p, hmem⟩
    exact ⟨(p, u), hmem, rfl⟩

/-- The declared uniforms after a change of those that stand in the program. -/
theorem declared_of_onBacked {f : Uniform → Uniform}
    (h : t'.parameters = t.parameters.map (onBacked f)) : t'.declared = t.declared.map f := by
  unfold declared
  rw [h]
  induction t.parameters with
  | nil => rfl
  | cons entry rest ih => by_cases hp : entry.1.isUniform <;> simp_all [onBacked]

theorem declared_markDirty : t.markDirty.declared = t.declared.map Uniform.markDirty := by
  simp only [declared, parameters_markDirty, List.filter_map, List.map_map]
  rfl

theorem upload_snd_declared (t : Instance) :
    t.upload.2 = t.declared.filterMap fun u => u.upload.2 := by
  simp only [upload, mapBacked_snd, declared, List.filterMap_map]
  rfl

/-- The writes of an upload, parameter by parameter. -/
theorem upload_snd :
    t.upload.2 = t.parameters.filterMap fun entry =>
      if entry.1.isUniform then entry.2.upload.2 else none := by
  simp only [upload, mapBacked_snd, parameters]
  induction t.kind.parameters.zip t.uniforms with
  | nil => rfl
  | cons entry rest ih =>
      by_cases hp : entry.1.isUniform <;> simp_all [List.filterMap_cons]

/-- A successful assignment replaces the uniform at the place of the parameter by one with a value
of its own type, which is dirty. -/
theorem set_eq_ok {name : String} {input : Input} (h : t.set name input = .ok t') :
    ∃ place u value, t.kind.place? name = some place ∧ t.uniforms[place]? = some u ∧
      input.resolve? u.dataType = some value ∧
      t' = { t with uniforms := t.uniforms.set place { u with value, dirty := true } } := by
  unfold set at h
  cases hplace : t.kind.place? name with
  | none => simp [hplace] at h
  | some place =>
      cases hu : t.uniforms[place]? with
      | none => simp [hplace, hu] at h
      | some u =>
          cases hvalue : input.resolve? u.dataType with
          | none => simp [hplace, hu, Uniform.assign?, hvalue] at h
          | some value =>
              simp only [hplace, hu, Uniform.assign?, hvalue, Option.map_some, Except.ok.injEq] at h
              exact ⟨place, u, value, rfl, hu, hvalue, h.symm⟩

/-- After a successful assignment a changed uniform stands at the place of the parameter, and
everywhere else what was there. -/
theorem getElem?_parameters_of_set {name : String} {input : Input} (h : t.set name input = .ok t')
    {place : Nat} {p : Parameter} {u : Uniform} (hu : t'.parameters[place]? = some (p, u)) :
    ∃ old, t.parameters[place]? = some (p, old) ∧
      ((t.kind.place? name = some place ∧ ∃ value, u = { old with value, dirty := true }) ∨
        (t.kind.place? name ≠ some place ∧ u = old)) := by
  obtain ⟨spot, old, value, hplace, hold, _, rfl⟩ := set_eq_ok h
  obtain ⟨hp, hu⟩ := getElem?_parameters.mp hu
  by_cases hspot : spot = place
  · subst hspot
    rw [List.getElem?_set_self (List.getElem?_eq_some_iff.mp hold).1] at hu
    exact ⟨old, getElem?_parameters.mpr ⟨hp, hold⟩, .inl ⟨hplace, value, (Option.some.inj hu).symm⟩⟩
  · rw [List.getElem?_set_ne hspot] at hu
    exact ⟨u, getElem?_parameters.mpr ⟨hp, hu⟩, .inr ⟨by simp [hplace, hspot], rfl⟩⟩

theorem setVariant_eq_ok {variant : Variant} (h : t.setVariant variant = .ok t') :
    (t.kind.source? variant).isSome ∧ t' = { t with variant } := by
  unfold setVariant at h
  split at h
  next hsource => exact ⟨hsource, (Except.ok.inj h).symm⟩
  next => cases h

end Texture.Instance

end SphereTrace
