import SphereTrace.Proofs.Texture.Naming

/-! # How registered instances are kept

Whatever a caller has registered, cloned or changed, each instance in a registry carries its own
number, and has for each parameter of its kind one uniform, which is named after both and keeps the
type of the parameter. This also holds for kinds that no catalog would admit.
-/

namespace SphereTrace.Texture

namespace Instance

variable {t : Instance}

/-- For each parameter there is a uniform in its place, with its type and with its name behind the
number. -/
theorem exists_uniform_of_numberedAs {number place : Nat} {p : Parameter} (hformed : t.WellFormed)
    (hnumber : t.NumberedAs number) (hp : t.kind.parameters[place]? = some p) :
    ∃ u, t.uniforms[place]? = some u ∧ u.name = boundName number p ∧ u.dataType = p.type := by
  have hlt : place < t.uniforms.length := by
    rw [hformed.length_uniforms]
    exact (List.getElem?_eq_some_iff.mp hp).1
  have hu : t.uniforms[place]? = some t.uniforms[place] := List.getElem?_eq_getElem hlt
  have hmem := List.mem_of_getElem? (getElem?_parameters.mpr ⟨hp, hu⟩)
  exact ⟨_, hu, hnumber.name_eq hmem, hformed.dataType_eq hmem⟩

/-- The selected variant has a source, so the empty one never stands in for it. -/
theorem WellFormed.source?_eq (h : t.WellFormed) : t.kind.source? t.variant = some t.source := by
  obtain ⟨s, hs⟩ := Option.isSome_iff_exists.mp h.selected
  rw [source, hs, Option.getD_some]

end Instance

namespace Registry

/-- What a registry holds can be cloned and registered again. -/
theorem made_after (c : Catalog) (ops : List Operation) :
    ∀ (number : Nat) (t : Instance), (after c ops).instances[number]? = some t → t.Made := by
  refine forall_run (Q := fun _ t => t.Made) (P := fun _ => True) ?_ ?_ ?_ ?_
  · intro number t ht
    simp at ht
  · intro op _ t _
    trivial
  · intro number t hmade _
    exact hmade.assignNumber number
  · intro number t t' hmade hchange
    exact hmade.change hchange

/-- Making a texture by its name registers the new instance, or fails and changes nothing. -/
theorem texture_eq (r : Registry) (kind : String) (overrides : Overrides) :
    (∃ t warnings, r.tryInstantiate kind overrides = .ok (t, warnings) ∧
        r.texture kind overrides = ((r.register t).1, some r.instances.length, warnings)) ∨
      ∃ e, r.tryInstantiate kind overrides = .error e ∧
        r.texture kind overrides = (r, none, [.skippedTexture e]) := by
  cases hmade : r.tryInstantiate kind overrides with
  | error e => exact .inr ⟨e, rfl, by simp only [texture, instantiate, hmade]⟩
  | ok made => exact .inl ⟨made.1, made.2, rfl, by simp only [texture, instantiate, hmade]; rfl⟩

/-- After any run, the instance under each number carries that number and can be registered again;
it has exactly one uniform for each parameter of its kind, in their order, named after the number
and the parameter and with a value of the parameter's type; and its kind has the source that it
selects. Registering answers with the number of instances so far, and a texture that cannot be made
leaves the registry as it is. -/
theorem represents_after (c : Catalog) (ops : List Operation) :
    let r := after c ops
    (∀ number < r.instances.length, ∃ t, r.get? number = some t ∧ t.Made ∧
        t.number = some number ∧
        t.uniforms.length = t.kind.parameters.length ∧
        (∀ (place : Nat) (p : Parameter), t.kind.parameters[place]? = some p →
          ∃ u : Uniform, t.uniforms[place]? = some u ∧
            u.name = "tex" ++ toString number ++ "_" ++ p.name ∧ u.value.dataType = p.type) ∧
        t.kind.source? t.variant = some t.source) ∧
      (∀ t, (r.register t).2 = r.instances.length ∧
        (r.register t).1.instances.length = r.instances.length + 1) ∧
      ∀ kind overrides,
        (∃ t warnings, r.tryInstantiate kind overrides = .ok (t, warnings) ∧
            r.texture kind overrides = ((r.register t).1, some r.instances.length, warnings)) ∨
          ∃ e, r.tryInstantiate kind overrides = .error e ∧
            r.texture kind overrides = (r, none, [.skippedTexture e]) := by
  intro r
  refine ⟨?_, ?_, r.texture_eq⟩
  · intro number hlt
    have ht : r.get? number = some r.instances[number] := List.getElem?_eq_getElem hlt
    obtain ⟨hformed, hnumber⟩ := wellFormed_after c ops number _ ht
    exact ⟨_, ht, made_after c ops number _ ht, hnumber.number_eq, hformed.length_uniforms,
      fun place p hp => Instance.exists_uniform_of_numberedAs hformed hnumber hp,
      hformed.source?_eq⟩
  · intro t
    exact ⟨rfl, by simp [register]⟩

end Registry

end SphereTrace.Texture
