import SphereTrace.Proofs.Texture.Switch

/-! # Agreement of declarations and dispatch

The declarations and the dispatch of a registry are written apart. Read back, they agree: what the
cases pass on as uniforms is what is declared, in the same order and with the types of the kinds,
and the label of a case is the number under which the registry holds the instance that it calls.
-/

namespace SphereTrace.Texture

namespace Registry

/-- The numbers of the instances with the calls of these. -/
def cases (r : Registry) : List (Nat × String) :=
  r.instances.zipIdx.map fun entry => (entry.2, entry.1.call.text)

theorem getElem?_cases {r : Registry} {number : Nat} {t : Instance}
    (ht : r.get? number = some t) : r.cases[number]? = some (number, t.call.text) := by
  have hentry : r.instances[number]? = some t := ht
  simp [cases, hentry]

theorem map_fst_cases (r : Registry) : r.cases.map Prod.fst = List.range r.instances.length := by
  rw [cases, List.map_map]
  exact (List.zipIdx_map_snd 0 _).trans List.range_eq_range'.symm

variable {c : Catalog} {ops : List Operation}

/-- The dispatch as it is read back. -/
theorem readSwitch?_after (hkinds : ∀ t ∈ (after c ops).instances, t.kind.Legible) :
    readSwitch? (after c ops).dispatch.switch = some ⟨(after c ops).cases, "vec3(0.)"⟩ := by
  have hcalls : ∀ call ∈ (after c ops).instances.map Instance.call, call.Readable := by
    intro call hcall
    obtain ⟨t, ht, rfl⟩ := List.mem_map.mp hcall
    obtain ⟨number, hnumber⟩ := List.mem_iff_getElem?.mp ht
    obtain ⟨hformed, hnumbered⟩ := wellFormed_after c ops number t hnumber
    exact Instance.readable_call hformed hnumbered (hkinds t ht)
  rw [dispatch, Dispatch.ofInstances, Dispatch.readSwitch?_writeSwitch hcalls, List.zipIdx_map,
    List.map_map]
  rfl

/-- The uniforms among the arguments of all cases, read in order. -/
theorem readDeclarations_eq_cases (hkinds : ∀ t ∈ (after c ops).instances, t.kind.Legible) :
    readDeclarations (after c ops).declarations =
      ((after c ops).instances.zip (after c ops).cases).flatMap fun (t, _, call) =>
        t.kind.backedArguments ((readCall call).2.drop 2) := by
  have hzip := List.zip_map' (l := (after c ops).instances.zipIdx) (f := Prod.fst)
    (g := fun entry => (entry.2, entry.1.call.text))
  rw [List.zipIdx_map_fst] at hzip
  rw [cases, hzip, List.flatMap_map, readDeclarations_after fun t ht => (hkinds t ht).parameters,
    declared, List.map_flatMap, ← flatMap_zipIdx_fst]
  apply List.flatMap_congr
  rintro ⟨t, number⟩ hentry
  have hnumber := List.mem_zipIdx_iff_getElem?.mp hentry
  obtain ⟨hformed, hnumbered⟩ := wellFormed_after c ops number t hnumber
  have hlegible := hkinds t (List.mem_of_getElem? hnumber)
  simp only [Instance.readCall_call hformed hnumbered hlegible, List.drop_succ_cons, List.drop_zero]
  exact (Instance.backedArguments_parameters hformed).symm

theorem length_readCall_after (hkinds : ∀ t ∈ (after c ops).instances, t.kind.Legible)
    {number : Nat} {t : Instance} (ht : (after c ops).instances[number]? = some t) :
    (readCall t.call.text).2.length = t.kind.parameters.length + 2 := by
  obtain ⟨hformed, hnumbered⟩ := wellFormed_after c ops number t ht
  rw [Instance.readCall_call hformed hnumbered (hkinds t (List.mem_of_getElem? ht))]
  simp [Instance.parameters, hformed.length_uniforms]

/-- A constant stands in its call and is not declared, neither by its text nor by the name that its
uniform would have. -/
theorem constant_after (hkinds : ∀ t ∈ (after c ops).instances, t.kind.Legible)
    {number place : Nat} {t : Instance} {p : Parameter} {u : Uniform}
    (ht : (after c ops).instances[number]? = some t) (hu : t.parameters[place]? = some (p, u))
    (hp : p.isUniform = false) :
    (readCall t.call.text).2[place + 2]? = some u.value.literal ∧
      ∀ d ∈ (after c ops).declared, d.name ≠ u.value.literal ∧ d.name ≠ u.name := by
  obtain ⟨hformed, hnumbered⟩ := wellFormed_after c ops number t ht
  have hlegible := hkinds t (List.mem_of_getElem? ht)
  constructor
  · rw [Instance.readCall_call hformed hnumbered hlegible]
    simp [hu, Instance.argument, hp]
  · intro d hd
    obtain ⟨_, _, q, _, other, hq, hname⟩ := exists_name_eq hd
    rw [hname]
    -- No literal starts like a name, and no two parameters of one name differ in being constant.
    constructor
    · intro heq
      have hhead := congrArg (fun s => s.toList.head?) heq
      simp only [Instance.toList_boundName, List.head?_cons] at hhead
      exact Glsl.head?_literal_ne _ hhead.symm
    · rw [hnumbered.name_eq (List.mem_of_getElem? hu)]
      intro heq
      have hsame := (Instance.boundName_inj.mp heq).2
      rw [Parameter.isUniform, hsame] at hq
      rw [Parameter.isUniform, hq] at hp
      cases hp

/-- Whatever was done to a registry of valid kinds with legible names, its declarations and its
dispatch agree when they are read back. All declared names are distinct; declared is, in order and
with the type that the kind gives, what the cases pass on as uniforms; constants are passed on as
their literals and not declared; and the cases are labelled in order, so that the function selects
the call of the instance under each number, and black for all other numbers. -/
theorem dispatch_agrees_after (c : Catalog) (ops : List Operation)
    (hops : ∀ op ∈ ops, op.Brings c fun k => k.validate = .ok () ∧ k.Legible) :
    let r := after c ops
    ∃ switch, readSwitch? r.dispatch.switch = some switch ∧
      ((readDeclarations r.declarations).map Prod.snd).Nodup ∧
      readDeclarations r.declarations =
        (r.instances.zip switch.cases).flatMap (fun (t, _, call) =>
          t.kind.backedArguments ((readCall call).2.drop 2)) ∧
      (∀ number t, r.get? number = some t → ∃ call, switch.cases[number]? = some (number, call) ∧
        (readCall call).2.length = t.kind.parameters.length + 2 ∧
        ∀ place p u, t.parameters[place]? = some (p, u) → p.isUniform = false →
          (readCall call).2[place + 2]? = some u.value.literal ∧
            ∀ d ∈ readDeclarations r.declarations, d.2 ≠ u.value.literal ∧ d.2 ≠ u.name) ∧
      switch.cases.map Prod.fst = List.range r.instances.length ∧
      (∀ number < r.instances.length, ∃ t, r.get? number = some t ∧
        switch.select number = t.call.text) ∧
      ∀ id : Int, id < 0 ∨ r.instances.length ≤ id → switch.select id = "vec3(0.)" := by
  intro r
  have hkinds := kind_after hops
  have hlegible : ∀ t ∈ r.instances, t.kind.Legible := fun t ht => (hkinds t ht).2
  have hread := readDeclarations_after fun t ht => (hlegible t ht).parameters
  refine ⟨_, readSwitch?_after hlegible, ?_, readDeclarations_eq_cases hlegible, ?_,
    map_fst_cases r, ?_, ?_⟩
  · rw [hread, List.map_map]
    exact nodup_names_after fun t ht => (hkinds t ht).1
  · intro number t ht
    refine ⟨_, getElem?_cases ht, length_readCall_after hlegible ht, ?_⟩
    intro place p u hu hp
    obtain ⟨hargument, hnames⟩ := constant_after hlegible ht hu hp
    refine ⟨hargument, ?_⟩
    rw [hread]
    intro d hd
    obtain ⟨v, hv, rfl⟩ := List.mem_map.mp hd
    exact hnames v hv
  · intro number hlt
    have ht : r.get? number = some r.instances[number] := List.getElem?_eq_getElem hlt
    refine ⟨_, ht, Switch.select_eq_of_mem ?_ (List.mem_of_getElem? (getElem?_cases ht))⟩
    rw [map_fst_cases]
    exact List.nodup_range
  · intro id hid
    apply Switch.select_eq_fallback
    intro entry hentry heq
    have hlabel : entry.1 ∈ List.range r.instances.length :=
      map_fst_cases r ▸ List.mem_map.mpr ⟨entry, hentry, rfl⟩
    have hlt := List.mem_range.mp hlabel
    omega

/-- A kind with a uniform and a constant. -/
def tinted : Kind where
  name := "tinted"
  solid := some ⟨"tint", "", []⟩
  parameters := [⟨"scale", .float, [1]⟩, ⟨"material", .vec3, [0]⟩]

theorem dispatch_agrees_tinted :
    ∃ switch, readSwitch?
        (after ⟨[tinted]⟩ [.texture "tinted" .empty, .texture "tinted" .empty]).dispatch.switch =
          some switch ∧
      switch.select 1 = "tint( pos, nor, tex1_scale, vec3(0.0, 0.0, 0.0) )" ∧
      switch.select 2 = "vec3(0.)" := by
  obtain ⟨switch, hread, _, _, _, _, hselect, hfallback⟩ := dispatch_agrees_after ⟨[tinted]⟩
    [.texture "tinted" .empty, .texture "tinted" .empty]
    (by
      intro op hop t ht
      have hkind : t.kind ∈ [tinted] := by
        rcases List.mem_pair.mp hop with rfl | rfl <;>
          exact Operation.brings_texture _ _ _ t ht
      rw [List.mem_singleton.mp hkind]
      exact ⟨by decide, ⟨by decide, by decide⟩⟩)
  obtain ⟨t, ht, hcall⟩ := hselect 1 (by decide)
  refine ⟨switch, hread, ?_, hfallback 2 (.inr (by decide))⟩
  have htext : ((after ⟨[tinted]⟩ [.texture "tinted" .empty, .texture "tinted" .empty]).get? 1).map
      (fun t => t.call.text) = some "tint( pos, nor, tex1_scale, vec3(0.0, 0.0, 0.0) )" := by
    decide
  rw [ht] at htext
  exact hcall.trans (Option.some.inj htext)

end Registry

end SphereTrace.Texture
