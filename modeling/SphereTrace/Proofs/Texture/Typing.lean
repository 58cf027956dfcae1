import Mathlib.Data.List.Forall2
import SphereTrace.Proofs.Texture.Agreement
import SphereTrace.Proofs.Texture.Bodies
import SphereTrace.Proofs.Texture.Representation
import SphereTrace.Proofs.Texture.Sources

/-! # Types of the calls in the dispatch

Read back, the cases of the dispatch call functions that the bodies define, and the uniforms that
they pass on are declared with the types of the parameters. Bodies, cases and declarations are all
written from the instances: over the built-in kinds each entry function is defined by a single body,
which any number of instances share.
-/

namespace SphereTrace.Texture

open Glsl (Defines Signature definitions)

namespace Dispatch

theorem defines_writeChunk {chunk : String} {signatures : List Signature}
    (h : Defines chunk signatures) : Defines (writeChunk chunk) signatures := by
  have hfeeds : Defines "\n\n" [] := by decide
  rw [← List.append_nil signatures]
  exact h.trimEnd.append hfeeds

/-- The bodies define what their texts define, one after the other. -/
theorem defines_writeBodies {instances : List Instance}
    (h : ∀ chunk ∈ chunks instances, ∃ signatures, Defines chunk signatures) :
    Defines (writeBodies instances) ((chunks instances).flatMap definitions) := by
  have hwritten : ∀ text ∈ (chunks instances).map writeChunk, Defines text (definitions text) := by
    intro text htext
    obtain ⟨chunk, hchunk, rfl⟩ := List.mem_map.mp htext
    obtain ⟨signatures, hdefines⟩ := h chunk hchunk
    rw [(defines_writeChunk hdefines).definitions_eq]
    exact defines_writeChunk hdefines
  have hsame : ((chunks instances).map writeChunk).flatMap definitions =
      (chunks instances).flatMap definitions := by
    rw [List.flatMap_map]
    apply List.flatMap_congr
    intro chunk hchunk
    obtain ⟨signatures, hdefines⟩ := h chunk hchunk
    rw [(defines_writeChunk hdefines).definitions_eq, hdefines.definitions_eq]
  rw [writeBodies, ← hsame]
  exact Glsl.defines_join hwritten

/-- Of texts that are all different, one defines a function of a name and no other does. -/
theorem filter_definitions {texts : List String} {text entry : String} {d : Signature}
    (hnodup : texts.Nodup) (hmem : text ∈ texts) (hd : Defines text [d]) (hname : d.name = entry)
    (hunique : ∀ other ∈ texts, ∃ es, Defines other es ∧ ∀ e ∈ es, e.name = entry → other = text) :
    (texts.flatMap definitions).filter (fun e => e.name = entry) = [d] := by
  obtain ⟨before, after, rfl⟩ := List.append_of_mem hmem
  have hnotin : text ∉ before ∧ text ∉ after := by
    rw [List.nodup_middle, List.nodup_cons, List.mem_append, not_or] at hnodup
    exact hnodup.1
  -- In front of the text and behind it nothing is found.
  have hnone : ∀ others : List String, (∀ other ∈ others, other ∈ before ++ text :: after) →
      text ∉ others → (others.flatMap definitions).filter (fun e => e.name = entry) = [] := by
    intro others hsub hothers
    rw [List.filter_eq_nil_iff]
    intro e he hentry
    obtain ⟨other, hother, he⟩ := List.mem_flatMap.mp he
    obtain ⟨es, hes, hnames⟩ := hunique other (hsub other hother)
    rw [hes.definitions_eq] at he
    rw [hnames e he (of_decide_eq_true hentry)] at hother
    exact hothers hother
  rw [List.flatMap_append, List.flatMap_cons, List.filter_append, List.filter_append,
    hd.definitions_eq, hnone before (fun other h => List.mem_append_left _ h) hnotin.1,
    hnone after (fun other h => List.mem_append_right _ (List.mem_cons_of_mem _ h)) hnotin.2]
  simp [hname]

end Dispatch

namespace Builtin

theorem kinds_builtin : Catalog.builtin.kinds = kinds := by
  rfl

theorem legible_of_mem {k : Kind} (hk : k ∈ kinds) : k.Legible where
  parameters := by
    have h : ∀ k ∈ kinds, ∀ p ∈ k.parameters, Legible p.name := by decide +kernel
    exact h k hk
  entries := by
    have h : ∀ k ∈ kinds, ∀ s ∈ k.sources, Legible s.entry := by decide +kernel
    exact h k hk

theorem isUniform_of_mem {k : Kind} (hk : k ∈ kinds) : ∀ p ∈ k.parameters, p.isUniform = true := by
  have h : ∀ k ∈ kinds, ∀ p ∈ k.parameters, p.isUniform = true := by decide +kernel
  exact h k hk

theorem mem_entries {k : Kind} (hk : k ∈ kinds) {s : Source} (hs : s ∈ k.sources) :
    s.entry ∈ entries :=
  List.mem_map_of_mem (List.mem_flatMap.mpr ⟨k, hk, hs⟩)

/-- Every text of a source can be read, and defines an entry function only if it is the body of the
source with this entry. -/
theorem exists_defines {k k' : Kind} (hk : k ∈ kinds) (hk' : k' ∈ kinds)
    {variant variant' : Variant} {s s' : Source} (hs : k.source? variant = some s)
    (hs' : k'.source? variant' = some s') {chunk : String} (hchunk : chunk ∈ s'.chunks) :
    ∃ es, Defines chunk es ∧ ∀ e ∈ es, e.name = s.entry → chunk = s.body := by
  rcases List.mem_append.mp hchunk with hhelper | hbody
  · obtain ⟨es, hdefines, hnames⟩ := defines_helper hk' hs' hhelper
    refine ⟨es, hdefines, ?_⟩
    intro e he hname
    exact absurd (hname ▸ mem_entries hk (Kind.mem_sources hs)) (hnames e he)
  · obtain rfl := List.mem_singleton.mp hbody
    obtain ⟨parameters, _, hdefines⟩ := defines_body hk' hs'
    refine ⟨_, hdefines, ?_⟩
    intro e he hname
    rw [List.mem_singleton.mp he] at hname
    have hsource := List.inj_on_of_nodup_map nodup_entries
      (List.mem_flatMap.mpr ⟨k', hk', Kind.mem_sources hs'⟩)
      (List.mem_flatMap.mpr ⟨k, hk, Kind.mem_sources hs⟩) hname
    rw [hsource]

/-- Among the bodies of built-in textures, one text defines the entry function of an instance. -/
theorem exists_definition {instances : List Instance}
    (h : ∀ t ∈ instances, t.kind ∈ kinds ∧ t.kind.source? t.variant = some t.source)
    {t : Instance} (ht : t ∈ instances) :
    ∃ chunk ∈ Dispatch.chunks instances, ∃ d,
      Defines chunk [d] ∧ d.name = t.source.entry ∧ d.result = "vec3" ∧
      d.types = argumentTypes t.kind t.variant ∧
      ∀ other ∈ Dispatch.chunks instances, ∃ es, Defines other es ∧
        ∀ e ∈ es, e.name = t.source.entry → other = chunk := by
  obtain ⟨hk, hs⟩ := h t ht
  obtain ⟨parameters, htypes, hdefines⟩ := defines_body hk hs
  have hchunk : t.source.body ∈ Dispatch.chunks instances :=
    Dispatch.mem_chunks.mpr ⟨t, ht, List.mem_append_right _ (List.mem_singleton_self _)⟩
  refine ⟨_, hchunk, _, hdefines, rfl, rfl, htypes, ?_⟩
  intro other hother
  obtain ⟨t', ht', hother⟩ := Dispatch.mem_chunks.mp hother
  obtain ⟨hk', hs'⟩ := h t' ht'
  exact exists_defines hk hk' hs hs' hother

end Builtin

namespace Registry

variable {c : Catalog} {ops : List Operation}

/-- A declared uniform is declared with its type, and with no other. -/
theorem mem_readDeclarations_iff
    (hkinds : ∀ t ∈ (after c ops).instances, t.kind.validate = .ok () ∧ t.kind.Legible)
    {u : Uniform} (hu : u ∈ (after c ops).declared) {type : String} :
    (type, u.name) ∈ readDeclarations (after c ops).declarations ↔ type = u.dataType.name := by
  rw [readDeclarations_after fun t ht => (hkinds t ht).2.parameters, List.mem_map]
  constructor
  · rintro ⟨v, hv, heq⟩
    obtain ⟨rfl, hname⟩ := Prod.mk.inj heq
    have hnames := nodup_names_after fun t ht => (hkinds t ht).1
    rw [List.inj_on_of_nodup_map hnames hv hu hname]
  · rintro rfl
    exact ⟨u, hu, rfl⟩

/-- The arguments behind coordinate and normal are declared with the types of the parameters. -/
theorem forall₂_arguments
    (hkinds : ∀ t ∈ (after c ops).instances, t.kind.validate = .ok () ∧ t.kind.Legible)
    {number : Nat} {t : Instance} (ht : (after c ops).instances[number]? = some t)
    (huniform : ∀ p ∈ t.kind.parameters, p.isUniform = true) :
    List.Forall₂ (fun argument type => ∀ declared,
        (declared, argument) ∈ readDeclarations (after c ops).declarations ↔ declared = type)
      (t.parameters.map Instance.argument) (t.kind.parameters.map fun p => p.type.name) := by
  obtain ⟨hformed, _⟩ := wellFormed_after c ops number t ht
  have hparameters : t.parameters.map Prod.fst = t.kind.parameters :=
    List.map_fst_zip (Nat.le_of_eq hformed.length_uniforms.symm)
  rw [← hparameters, List.map_map, List.forall₂_map_left_iff, List.forall₂_map_right_iff,
    List.forall₂_same]
  rintro ⟨p, u⟩ hmem declared
  have hp := huniform p (List.of_mem_zip hmem).1
  have hu : u ∈ (after c ops).declared :=
    List.mem_flatMap.mpr ⟨t, List.mem_of_getElem? ht, Instance.mem_declared.mpr ⟨p, hmem, hp⟩⟩
  have hargument : Instance.argument (p, u) = u.name := if_pos hp
  rw [hargument, mem_readDeclarations_iff hkinds hu, hformed.dataType_eq hmem]
  rfl

/-- Every call in the dispatch over the built-in kinds is well-typed, whatever was done to the
registry. One text among the bodies, and one definition in all of them, defines the function that a
case calls; its parameters are as many as the arguments, and in this order: `vec3` for a position or
`vec2` for surface coordinates, `vec3` for the normal, and for each uniform the type with which it is
declared. -/
theorem calls_typed_after (ops : List Operation)
    (hops : ∀ op ∈ ops, op.Brings .builtin (· ∈ Catalog.builtin.kinds)) :
    let r := after .builtin ops
    ∃ switch ds, readSwitch? r.dispatch.switch = some switch ∧ Defines r.dispatch.bodies ds ∧
      switch.cases.map Prod.fst = List.range r.instances.length ∧
      ∀ number call, (number, call) ∈ switch.cases →
        ∃ chunk ∈ Dispatch.chunks r.instances, ∃ d,
          Defines chunk [d] ∧ d.name = (readCall call).1 ∧ d.result = "vec3" ∧
          (∀ other ∈ Dispatch.chunks r.instances, ∃ es, Defines other es ∧
            ∀ e ∈ es, e.name = (readCall call).1 → other = chunk) ∧
          ds.filter (fun e => e.name = (readCall call).1) = [d] ∧
          ∃ coordinate type arguments types,
            (readCall call).2 = coordinate :: "nor" :: arguments ∧
            d.types = type :: "vec3" :: types ∧
            (coordinate = "pos" ∧ type = "vec3" ∨ coordinate = "uv" ∧ type = "vec2") ∧
            List.Forall₂ (fun argument type => ∀ declared,
              (declared, argument) ∈ readDeclarations r.declarations ↔ declared = type)
              arguments types := by
  intro r
  have hvalid : Catalog.builtin.Valid := Catalog.Reachable.empty.extendBuiltin.valid
  have hbuiltin : ∀ t ∈ r.instances, t.kind ∈ Builtin.kinds := by
    rw [← Builtin.kinds_builtin]
    exact kind_after hops
  have hkinds : ∀ t ∈ r.instances, t.kind.validate = .ok () ∧ t.kind.Legible := fun t ht =>
    ⟨hvalid t.kind (hbuiltin t ht), Builtin.legible_of_mem (hbuiltin t ht)⟩
  have hsources : ∀ t ∈ r.instances, t.kind ∈ Builtin.kinds ∧
      t.kind.source? t.variant = some t.source := by
    intro t ht
    obtain ⟨number, hnumber⟩ := List.mem_iff_getElem?.mp ht
    exact ⟨hbuiltin t ht, (wellFormed_after .builtin ops number t hnumber).1.source?_eq⟩
  have hbodies : Defines r.dispatch.bodies ((Dispatch.chunks r.instances).flatMap definitions) := by
    apply Dispatch.defines_writeBodies
    intro chunk hchunk
    obtain ⟨t, ht, hchunk⟩ := Dispatch.mem_chunks.mp hchunk
    obtain ⟨hk, hs⟩ := hsources t ht
    obtain ⟨es, hdefines, _⟩ := Builtin.exists_defines hk hk hs hs hchunk
    exact ⟨es, hdefines⟩
  refine ⟨_, _, readSwitch?_after fun t ht => (hkinds t ht).2, hbodies, map_fst_cases r, ?_⟩
  intro number call hcase
  obtain ⟨⟨t, _⟩, hentry, heq⟩ := List.mem_map.mp hcase
  obtain ⟨rfl, rfl⟩ := Prod.mk.inj heq
  have hnumber : r.instances[_]? = some t := List.mem_zipIdx_iff_getElem?.mp hentry
  have ht := List.mem_of_getElem? hnumber
  obtain ⟨hformed, hnumbered⟩ := wellFormed_after .builtin ops _ t hnumber
  obtain ⟨chunk, hchunk, d, hd, hname, hresult, htypes, hunique⟩ :=
    Builtin.exists_definition hsources ht
  have hfilter := Dispatch.filter_definitions (Dispatch.nodup_chunks r.instances) hchunk hd hname
    hunique
  rw [Instance.readCall_call hformed hnumbered (hkinds t ht).2]
  refine ⟨chunk, hchunk, d, hd, hname, hresult, hunique, hfilter, _, _, _, _, rfl, htypes, ?_,
    forall₂_arguments hkinds hnumber (Builtin.isUniform_of_mem (hbuiltin t ht))⟩
  cases t.variant with
  | solid => exact .inl ⟨rfl, rfl⟩
  | planar => exact .inr ⟨rfl, rfl⟩

/-- Checkers on a surface, which is not the variant that they start with. -/
theorem calls_typed_checkers :
    let r := after .builtin [.texture "checkers" .empty, .setVariant 0 .planar]
    ∃ switch ds, readSwitch? r.dispatch.switch = some switch ∧ Defines r.dispatch.bodies ds ∧
      switch.cases = [(0, "checkers2d( uv, nor, tex0_size, tex0_color1, tex0_color2 )")] ∧
      ∃ d, ds.filter (fun e => e.name = "checkers2d") = [d] ∧
        d.types = ["vec2", "vec3", "float", "vec3", "vec3"] := by
  intro r
  have hops : ∀ op ∈ [.texture "checkers" .empty, .setVariant 0 .planar],
      Operation.Brings .builtin (· ∈ Catalog.builtin.kinds) op := by
    intro op hop
    rcases List.mem_pair.mp hop with rfl | rfl
    · exact Operation.brings_texture _ _ _
    · intro t ht
      cases ht
  obtain ⟨switch, ds, hread, hbodies, _, hcalls⟩ := calls_typed_after _ hops
  have hcases : switch.cases =
      [(0, "checkers2d( uv, nor, tex0_size, tex0_color1, tex0_color2 )")] := by
    have hwritten := readSwitch?_after (c := .builtin) fun t ht =>
      Builtin.legible_of_mem (Builtin.kinds_builtin ▸ kind_after hops t ht)
    obtain rfl := Option.some.inj (hread.symm.trans hwritten)
    decide +kernel
  have hcall : readCall "checkers2d( uv, nor, tex0_size, tex0_color1, tex0_color2 )" =
      ("checkers2d", ["uv", "nor", "tex0_size", "tex0_color1", "tex0_color2"]) := by
    decide +kernel
  have hdeclared : readDeclarations r.declarations =
      [("float", "tex0_size"), ("vec3", "tex0_color1"), ("vec3", "tex0_color2")] := by
    decide +kernel
  refine ⟨switch, ds, hread, hbodies, hcases, ?_⟩
  obtain ⟨_, _, d, _, _, _, _, hfilter, coordinate, type, arguments, types, hpassed, htypes,
    hcoordinate, harguments⟩ := hcalls 0 _ (hcases ▸ List.mem_singleton_self _)
  rw [hcall] at hfilter hpassed
  refine ⟨d, hfilter, ?_⟩
  simp only [List.cons.injEq, true_and] at hpassed
  obtain ⟨rfl, rfl⟩ := hpassed
  have htype : type = "vec2" := by simpa using hcoordinate
  simp only [List.forall₂_cons_left_iff, List.forall₂_nil_left_iff] at harguments
  obtain ⟨size, _, hsize, ⟨first, _, hfirst, ⟨second, _, hsecond, rfl, rfl⟩, rfl⟩, rfl⟩ := harguments
  rw [htypes, htype, ← (hsize "float").mp (by rw [hdeclared]; decide),
    ← (hfirst "vec3").mp (by rw [hdeclared]; decide),
    ← (hsecond "vec3").mp (by rw [hdeclared]; decide)]

end Registry

end SphereTrace.Texture
