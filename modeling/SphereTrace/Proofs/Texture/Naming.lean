import Mathlib.Data.List.Nodup
import SphereTrace.Proofs.Text.Words
import SphereTrace.Proofs.Texture.Run
import SphereTrace.Proofs.Texture.Validity

/-! # Names of registered uniforms

A uniform is named after the number of its instance and after its parameter. The two can be told
apart again whatever the parameter is called, since no number has an underscore in it; so all names
in a registry of valid kinds are distinct.
-/

namespace SphereTrace.Texture

open Glsl (DataType)

namespace Instance

theorem toList_boundName (number : Nat) (p : Parameter) :
    (boundName number p).toList =
      't' :: 'e' :: 'x' :: (Nat.toDigits 10 number ++ '_' :: p.name.toList) := by
  simp [boundName]

/-- A name gives away the number and the parameter. -/
theorem boundName_inj {i j : Nat} {p q : Parameter} :
    boundName i p = boundName j q ↔ i = j ∧ p.name = q.name := by
  constructor
  · intro h
    have hlist := congrArg String.toList h
    simp only [toList_boundName, List.cons.injEq, true_and] at hlist
    -- The digits end at the first underscore, whatever the parameter's name has in it.
    obtain ⟨hdigits, hname⟩ := Text.eq_of_append_cons_eq Nat.underscore_not_in_toDigits
      Nat.underscore_not_in_toDigits hlist
    have hnumber := congrArg (fun digits => Nat.ofDigitChars 10 digits 0) hdigits
    simp only [Nat.ofDigitChars_ten_toDigits] at hnumber
    exact ⟨hnumber, String.toList_inj.mp hname⟩
  · rintro ⟨rfl, hname⟩
    simp only [boundName, hname]

/-- Whatever is read off the uniforms of an instance can be read off its declared ones. -/
theorem map_declared {γ : Type} {g : Uniform → γ} {h : Parameter → γ} {t : Instance}
    (hgh : t.uniforms.map g = t.kind.parameters.map h) :
    t.declared.map g = (t.kind.parameters.filter Parameter.isUniform).map h := by
  unfold declared parameters
  generalize t.kind.parameters = ps at hgh ⊢
  generalize t.uniforms = us at hgh ⊢
  induction ps generalizing us with
  | nil => rfl
  | cons p rest ih =>
      cases us with
      | nil => cases hgh
      | cons u others =>
          simp only [List.map_cons, List.cons.injEq] at hgh
          have htail := ih others hgh.2
          by_cases hp : p.isUniform <;> simp_all

theorem WellFormed.length_declared {t : Instance} (ht : t.WellFormed) :
    t.declared.length = (t.kind.parameters.filter Parameter.isUniform).length := by
  have hlength := congrArg List.length (map_declared ht.types)
  simpa only [List.length_map] using hlength

theorem NumberedAs.name_eq {t : Instance} {number : Nat} (h : t.NumberedAs number)
    {p : Parameter} {u : Uniform} (hmem : (p, u) ∈ t.parameters) : u.name = boundName number p := by
  obtain ⟨place, hplace⟩ := List.mem_iff_getElem?.mp hmem
  obtain ⟨hp, hu⟩ := getElem?_parameters.mp hplace
  have hname := congrArg (fun names => names[place]?) h.names
  simpa [hp, hu] using hname

/-- The declared uniforms of a registered instance, by its kind and number alone. -/
theorem signature_declared {t : Instance} {number : Nat} (hformed : t.WellFormed)
    (hnumber : t.NumberedAs number) :
    t.declared.map (fun u => (u.dataType, u.name)) =
      (t.kind.parameters.filter Parameter.isUniform).map
        fun p => (p.type, boundName number p) := by
  apply map_declared
  rw [← List.zip_map', ← List.zip_map', hformed.types, hnumber.names]

end Instance

namespace Registry

/-- A declared uniform is named after an instance and a parameter of that, which is no constant. -/
theorem exists_name_eq {c : Catalog} {ops : List Operation} {u : Uniform}
    (hu : u ∈ (after c ops).declared) :
    ∃ t ∈ (after c ops).instances, ∃ p ∈ t.kind.parameters, ∃ number,
      p.isUniform = true ∧ u.name = Instance.boundName number p := by
  obtain ⟨t, ht, hu⟩ := List.mem_flatMap.mp hu
  obtain ⟨number, hnumber⟩ := List.mem_iff_getElem?.mp ht
  obtain ⟨p, hmem, hp⟩ := Instance.mem_declared.mp hu
  exact ⟨t, ht, p, (List.of_mem_zip hmem).1, number, hp,
    (wellFormed_after c ops number t hnumber).2.name_eq hmem⟩

/-- The declared uniforms after a run, by the kinds of the instances and their numbers alone. -/
theorem signature_declared_after (c : Catalog) (ops : List Operation) :
    (after c ops).declared.map (fun u => (u.dataType, u.name)) =
      (after c ops).instances.zipIdx.flatMap fun entry =>
        (entry.1.kind.parameters.filter Parameter.isUniform).map
          fun p => (p.type, Instance.boundName entry.2 p) := by
  rw [declared, List.map_flatMap, ← flatMap_zipIdx_fst]
  apply List.flatMap_congr
  intro entry hentry
  obtain ⟨hformed, hnumber⟩ :=
    wellFormed_after c ops entry.2 entry.1 (List.mem_zipIdx_iff_getElem?.mp hentry)
  exact Instance.signature_declared hformed hnumber

theorem nodup_boundNames {ts : List Instance} (hvalid : ∀ t ∈ ts, t.kind.validate = .ok ()) :
    (ts.zipIdx.flatMap fun entry => (entry.1.kind.parameters.filter Parameter.isUniform).map
      (Instance.boundName entry.2)).Nodup := by
  -- Within an instance the parameters differ, between two instances the numbers do.
  rw [List.nodup_flatMap]
  constructor
  · intro entry hentry
    have hnames := Kind.nodup_names_of_validate
      (hvalid entry.1 (List.fst_mem_of_mem_zipIdx hentry))
    have hfilter := (List.filter_sublist (p := Parameter.isUniform)).map Parameter.name
      |>.nodup hnames
    refine List.Nodup.map_on ?_ (List.Nodup.of_map _ hfilter)
    intro p hp q hq hpq
    exact List.inj_on_of_nodup_map hfilter hp hq (Instance.boundName_inj.mp hpq).2
  · have hindices : (ts.zipIdx.map Prod.snd).Nodup := by
      rw [List.zipIdx_map_snd]
      exact List.nodup_range'
    refine (List.pairwise_map.mp hindices).imp ?_
    intro first second hne
    simp only [Function.onFun, List.disjoint_left, List.mem_map, not_exists, not_and]
    rintro _ ⟨p, _, rfl⟩ q _ hq
    exact hne (Instance.boundName_inj.mp hq).1.symm

/-- All names of declared uniforms in a registry of valid kinds are distinct. -/
theorem nodup_names_after {c : Catalog} {ops : List Operation}
    (hvalid : ∀ t ∈ (after c ops).instances, t.kind.validate = .ok ()) :
    ((after c ops).declared.map Uniform.name).Nodup := by
  have hnames := congrArg (List.map Prod.snd) (signature_declared_after c ops)
  simp only [List.map_map, List.map_flatMap] at hnames
  change (after c ops).declared.map Uniform.name = _ at hnames
  rw [hnames]
  exact nodup_boundNames hvalid

end Registry

end SphereTrace.Texture
