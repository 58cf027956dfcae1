import SphereTrace.Proofs.Fragment.Counting
import SphereTrace.Proofs.Texture.Declarations
import SphereTrace.Proofs.Texture.Sending
import SphereTrace.Proofs.Uniform.Recorder

/-! # Binding the textures of a shader

The declarations of a registry go through a request and the assembly of a shader before a program
is compiled from them. They arrive as lines of their own whatever the caller's texts are, so the
program has a location for every uniform of the registry. What is uploaded can be told by name as
long as the program has no more names than locations.
-/

namespace SphereTrace.Fragment

open Text (Ended)
open Texture (Catalog Instance Kind Operation Overrides Parameter Registry)

namespace Request

/-- A block that is added to a text starts on a line of its own. -/
theorem exists_appendBlock_eq (target : String) {block : String} (hblock : block ≠ "") :
    ∃ head : String, Ended head.toList ∧ appendBlock target block = head ++ block := by
  unfold appendBlock
  rw [if_neg hblock]
  split
  next h =>
    refine ⟨target, ?_, rfl⟩
    rcases h with rfl | hends
    · exact Text.ended_nil
    · exact .inr (Text.endsLine_iff.mp hends)
  next =>
    refine ⟨target ++ "\n", ?_, rfl⟩
    rw [String.toList_append]
    exact Text.ended_concat _

/-- A text of the caller is written out as it is if there is anything to see in it. -/
theorem exists_splice_eq {fragment : String} {c : Char} (hc : c ∈ fragment.toList)
    (hvisible : Text.isBlank c = false) : ∃ tail, splice fragment = fragment ++ tail := by
  have hblank : Text.isBlankText fragment = false := by
    rw [Text.isBlankText, List.all_eq_false]
    exact ⟨c, hc, by simp [hvisible]⟩
  refine ⟨(if Text.endsLine fragment then "" else "\n") ++ "\n", ?_⟩
  simp [splice, hblank, String.append_assoc]

theorem ended_backgroundPiece (background : Option (Vec3 Binary32)) :
    Ended (backgroundPiece background).toList := by
  cases background with
  | none => exact Text.ended_nil
  | some colour => exact Glsl.ended_text _

theorem pieces_eq (r : Request) :
    r.pieces = fixed Fixed.preamble :: backgroundPiece r.background :: splice r.declarations ::
      r.pieces.drop 3 := rfl

/-- The declarations of a registry stand in the shader as whole lines. -/
theorem exists_assemble_eq (request : Request) (textures : Registry) :
    ∃ before rest, Ended before ∧ (request.withTextures textures).assemble.toList =
      before ++ textures.declarations.toList ++ rest := by
  -- Without declarations there is nothing to find. Otherwise their piece is not blank, so it is
  -- written out, and what stands in front of it is whole lines.
  by_cases hempty : textures.declarations = ""
  · refine ⟨[], (request.withTextures textures).assemble.toList, Text.ended_nil, ?_⟩
    rw [hempty, String.toList_empty, List.append_nil, List.nil_append]
  · obtain ⟨head, hhead, hblock⟩ := exists_appendBlock_eq request.declarations hempty
    have hvisible : 'u' ∈ (head ++ textures.declarations).toList := by
      rw [String.toList_append]
      exact List.mem_append_right _ (Registry.mem_declarations_of_ne_empty hempty)
    obtain ⟨tail, htail⟩ := exists_splice_eq hvisible (by decide)
    have hdeclarations : (request.withTextures textures).declarations =
      head ++ textures.declarations := hblock
    refine ⟨(fixed Fixed.preamble).toList ++ (backgroundPiece request.background).toList ++
      head.toList, tail.toList ++ ((request.withTextures textures).pieces.drop 3).flatMap
      String.toList, ?_, ?_⟩
    · exact ((Glsl.ended_text _).append (ended_backgroundPiece _)).append hhead
    · rw [assemble, String.toList_join, pieces_eq, hdeclarations, htail]
      simp only [List.flatMap_cons, String.toList_append, List.append_assoc]
      rfl

/-- The program that is recorded from the shader with the textures. -/
def program (request : Request) (textures : Registry) : Recorder :=
  .ofSource (request.withTextures textures).assemble

theorem isSome_locate_program (request : Request) {c : Catalog} {ops : List Operation}
    (hlegible : ∀ t ∈ (Registry.after c ops).instances, ∀ p ∈ t.kind.parameters, Legible p.name) :
    ∀ u ∈ (Registry.after c ops).declared,
      ((request.program (Registry.after c ops)).locate u.name).isSome := by
  intro u hu
  obtain ⟨before, rest, hbefore, hsource⟩ :=
    exists_assemble_eq request (Registry.after c ops)
  have hended : Ended (Registry.after c ops).declarations.toList := by
    rw [Registry.declarations_eq_text]
    exact Glsl.ended_text _
  exact Recorder.isSome_locate (Recorder.names_ofSource_subset hsource hbefore hended
    (Registry.mem_declaredNames hlegible hu))

end Request

section Located

variable {r : Registry} {program : Recorder}

/-- Once all uniforms are located, an upload right after binding writes each of them. -/
theorem map_upload_bind {α : Type} {f : Write → α} {g : Uniform → α}
    (h : ∀ u ∈ r.declared, ∃ location, program.locate u.name = some location ∧
      f ⟨location, u.value⟩ = g u) :
    (r.bind program.locate).upload.2.map f = r.declared.map g := by
  rw [Registry.upload_snd_declared, Registry.declared_bind, List.filterMap_map,
    List.map_filterMap, ← List.filterMap_eq_map]
  apply List.filterMap_congr
  intro u hu
  obtain ⟨location, hlocation, hvalue⟩ := h u hu
  simp [Uniform.bind, Uniform.upload, hlocation, hvalue]

theorem length_upload_bind (h : ∀ u ∈ r.declared, (program.locate u.name).isSome) :
    (r.bind program.locate).upload.2.length = r.declared.length := by
  have hvalues : (r.bind program.locate).upload.2.map Write.value =
      r.declared.map Uniform.value := by
    apply map_upload_bind
    intro u hu
    obtain ⟨location, hlocation⟩ := Option.isSome_iff_exists.mp (h u hu)
    exact ⟨location, hlocation, rfl⟩
  simpa using congrArg List.length hvalues

/-- The writes after binding are told by name and value. -/
theorem map_nameAt_upload_bind (hfits : program.Fits)
    (h : ∀ u ∈ r.declared, (program.locate u.name).isSome) :
    ((r.bind program.locate).upload.2.map fun w => (program.nameAt w.location, w.value)) =
      r.declared.map fun u => (u.name, u.value) := by
  apply map_upload_bind
  intro u hu
  obtain ⟨location, hlocation⟩ := Option.isSome_iff_exists.mp (h u hu)
  exact ⟨location, hlocation, by rw [Recorder.nameAt_locate hfits hlocation]⟩

theorem isSome_location_bind (h : ∀ u ∈ r.declared, (program.locate u.name).isSome) :
    ∀ u ∈ (r.bind program.locate).declared, u.location.isSome := by
  intro u hu
  rw [Registry.declared_bind] at hu
  obtain ⟨old, hold, rfl⟩ := List.mem_map.mp hu
  exact h old hold

theorem nodup_locations_bind (hfits : program.Fits)
    (h : ∀ u ∈ r.declared, (program.locate u.name).isSome)
    (hnames : (r.declared.map Uniform.name).Nodup) :
    ((r.bind program.locate).declared.map Uniform.location).Nodup := by
  have hlocations : (r.bind program.locate).declared.map Uniform.location =
      (r.declared.map Uniform.name).map program.locate := by
    simp only [Registry.declared_bind, List.map_map]
    rfl
  rw [hlocations]
  refine List.Nodup.map_on ?_ hnames
  intro name hname other _ hsame
  obtain ⟨u, hu, rfl⟩ := List.mem_map.mp hname
  obtain ⟨location, hlocation⟩ := Option.isSome_iff_exists.mp (h u hu)
  exact Recorder.locate_inj hfits hlocation (hsame ▸ hlocation)

end Located

section Run

variable (c : Catalog) (ops : List Operation)

theorem map_declared_after :
    ((Registry.after c ops).declared.map fun u => (u.name, u.value)) =
      (Registry.after c ops).instances.zipIdx.flatMap fun (t, number) =>
        (t.parameters.filter fun entry => entry.1.isUniform).map fun (p, u) =>
          (Instance.boundName number p, u.value) := by
  rw [Registry.declared, List.map_flatMap, ← Registry.flatMap_zipIdx_fst]
  apply List.flatMap_congr
  rintro ⟨t, number⟩ ht
  have hnumber :=
    (Registry.wellFormed_after c ops number t (List.mem_zipIdx_iff_getElem?.mp ht)).2
  rw [Instance.declared, List.map_map]
  apply List.map_congr_left
  rintro ⟨p, u⟩ hmem
  rw [Function.comp_apply, hnumber.name_eq (List.mem_of_mem_filter hmem)]

theorem length_declared_after :
    (Registry.after c ops).declared.length =
      ((Registry.after c ops).instances.flatMap fun t =>
        t.kind.parameters.filter Parameter.isUniform).length := by
  rw [Registry.declared, List.length_flatMap, List.length_flatMap]
  congr 1
  apply List.map_congr_left
  intro t ht
  obtain ⟨number, hnumber⟩ := List.mem_iff_getElem?.mp ht
  exact (Registry.wellFormed_after c ops number t hnumber).1.length_declared

end Run

end SphereTrace.Fragment
