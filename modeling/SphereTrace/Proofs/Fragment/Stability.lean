import SphereTrace.Proofs.Fragment.Caching
import SphereTrace.Proofs.Texture.Agreement
import SphereTrace.Proofs.Texture.Writing

/-! # When a program has to be compiled again

A caller who only moves the values of uniforms keeps the program. This also holds for everything that
fails, so the cache answers with the text that it has. To change a constant is to change the
program, but only the case of one instance in it.
-/

namespace SphereTrace

namespace Texture

/-- The operation keeps the source: it assigns to a uniform that stands in the program, changes no
more than flags and locations, or fails. -/
def Operation.Quiet (r : Registry) : Operation → Prop
  | .register _ _ | .clear => False
  | .texture kind overrides => (r.texture kind overrides).2.1 = none
  | .set number parameter input =>
    parameter ≠ Parameter.inlinedName ∨ ∀ t ∈ r.get? number, (t.set parameter input).isOk = false
  | .setVariant number variant => ∀ t ∈ r.get? number, (t.setVariant variant).isOk = false
  | .markDirty _ | .bind _ | .upload => True

instance (r : Registry) : DecidablePred (Operation.Quiet r)
  | .register _ _ | .clear => inferInstanceAs (Decidable False)
  | .texture kind overrides =>
    inferInstanceAs (Decidable ((r.texture kind overrides).2.1 = none))
  | .set number parameter input =>
    inferInstanceAs (Decidable (parameter ≠ Parameter.inlinedName ∨
      ∀ t ∈ r.get? number, (t.set parameter input).isOk = false))
  | .setVariant number variant =>
    inferInstanceAs (Decidable (∀ t ∈ r.get? number, (t.setVariant variant).isOk = false))
  | .markDirty _ | .bind _ | .upload => inferInstanceAs (Decidable True)

namespace Registry

variable {r : Registry} {op : Operation}

/-- Every operation of the run is quiet for the registry that it finds. -/
def QuietRun (r : Registry) : List Operation → Prop
  | [] => True
  | op :: rest => op.Quiet r ∧ QuietRun (r.step op) rest

instance decidableQuietRun : (r : Registry) → (ops : List Operation) → Decidable (r.QuietRun ops)
  | _, [] => .isTrue trivial
  | r, op :: rest =>
    have := decidableQuietRun (r.step op) rest
    inferInstanceAs (Decidable (op.Quiet r ∧ (r.step op).QuietRun rest))

theorem newcomer?_of_quiet (h : op.Quiet r) : op.newcomer? r.catalog = none := by
  cases op with
  | register => exact h.elim
  | texture kind overrides =>
      have hnone : (r.texture kind overrides).2.1 = none := h
      rw [texture_number, Option.map_eq_none_iff] at hnone
      exact hnone
  | _ => rfl

theorem remaining_of_quiet (h : op.Quiet r) : r.remaining op = r.instances := by
  cases op with
  | clear => exact h.elim
  | _ => rfl

theorem written_act {number : Nat} {t : Instance} (h : op.Quiet r) (ht : r.get? number = some t) :
    (op.act number t).written = t.written := by
  cases op with
  | register | clear => exact h.elim
  | texture => rfl
  | set target parameter input =>
      rcases Operation.act_set target number parameter input t with ⟨rfl, hset⟩ | ⟨hsame, _⟩
      · rcases h with hname | hfails
        · exact Instance.written_of_set hset hname
        · have hok := hfails t ht
          rw [hset] at hok
          cases hok
      · rw [hsame]
  | setVariant target variant =>
      simp only [Operation.act]
      split
      next htarget =>
        cases hset : t.setVariant variant with
        | error e => rfl
        | ok changed =>
            have hok := h t (htarget ▸ ht)
            rw [hset] at hok
            cases hok
      next => rfl
  | markDirty target =>
      simp only [Operation.act]
      split
      next => exact t.written_markDirty
      next => rfl
  | bind locations => exact t.written_bind locations
  | upload => exact t.written_upload

theorem written_step (h : op.Quiet r) :
    (r.step op).instances.map Instance.written = r.instances.map Instance.written := by
  rw [instances_step, newcomer?_of_quiet h, remaining_of_quiet h]
  apply List.ext_getElem?
  intro number
  simp only [Option.toList_none, List.map_nil, List.append_nil, List.getElem?_map,
    List.getElem?_mapIdx, Option.map_map]
  cases ht : r.instances[number]? with
  | none => rfl
  | some t => exact congrArg some (written_act h ht)

theorem written_run {ops : List Operation} (h : r.QuietRun ops) :
    (r.run ops).instances.map Instance.written = r.instances.map Instance.written := by
  -- Whether an operation is quiet hangs on the registry in front of it, so `r` is general.
  induction ops generalizing r with
  | nil => rfl
  | cons op rest ih => exact (ih h.2).trans (written_step h.1)

theorem step_set {number : Nat} {name : String} {input : Input} {t t' : Instance}
    (ht : r.get? number = some t) (hset : t.set name input = .ok t') :
    r.step (.set number name input) = r.put number t' := by
  simp only [step, attempt, ht, hset]

/-- An assignment to one instance, be it to a constant, does not reach the declarations, the bodies
or the case of any other. -/
theorem source_step_set {number : Nat} {name : String} {input : Input} {t t' : Instance}
    (ht : r.get? number = some t) (hset : t.set name input = .ok t') :
    let changed := r.step (.set number name input)
    changed.declarations = r.declarations ∧ changed.dispatch.bodies = r.dispatch.bodies ∧
      changed.caseTexts.length = r.caseTexts.length ∧
      ∀ other, other ≠ number → changed.caseTexts[other]? = r.caseTexts[other]? := by
  intro changed
  have hchanged : changed = r.put number t' := step_set ht hset
  obtain ⟨hdeclarations, hsource⟩ := Instance.declarations_of_set hset
  refine ⟨?_, ?_, ?_, ?_⟩
  · rw [declarations_eq_written, declarations_eq_written, List.flatMap_map, List.flatMap_map,
      List.flatMap_def, List.flatMap_def, hchanged, put,
      Instance.map_set_self (fun t => t.written.declarations) ht hdeclarations]
  · rw [bodies_eq, bodies_eq, hchanged, put, Instance.map_set_self Instance.source ht hsource]
  · simp [caseTexts, hchanged, put]
  · intro other hother
    rw [getElem?_caseTexts, getElem?_caseTexts, hchanged, get?, put,
      List.getElem?_set_ne hother.symm, ← get?]

end Registry

end Texture

namespace Fragment

open Texture (Catalog Dispatch Instance Operation Parameter Registry)

theorem Request.withTextures_congr (request : Request) {r r' : Registry}
    (hdeclarations : r'.declarations = r.declarations) (hdispatch : r'.dispatch = r.dispatch) :
    request.withTextures r' = request.withTextures r := by
  rw [withTextures, withTextures, hdeclarations, hdispatch]

/-- Whatever was done to a registry, a quiet run from there keeps its declarations and its dispatch.
Every request then has the same text with its textures as before, and a cache that holds the text
answers with it and does not ask for a new program. An assignment to a constant of one instance
keeps the declarations, the bodies and, of the cases that the dispatch function consists of, those
of all other instances. -/
theorem source_stable_after (c : Catalog) (before ops : List Operation)
    (hquiet : (Registry.after c before).QuietRun ops) :
    let r := Registry.after c before
    let later := r.run ops
    (later.declarations = r.declarations ∧ later.dispatch = r.dispatch) ∧
      (∀ request : Request,
        (request.withTextures later).assemble = (request.withTextures r).assemble ∧
        ∀ cache key, Cache.Holds cache key (request.withTextures r) →
          cache.needsRebuild key (request.withTextures later) = false ∧
          cache.getOrAssemble key (request.withTextures later) =
            (cache, .ok ⟨(request.withTextures r).assemble, false⟩)) ∧
      ∀ number t t' input, r.get? number = some t →
        t.set Parameter.inlinedName input = .ok t' →
        let changed := r.step (.set number Parameter.inlinedName input)
        changed.declarations = r.declarations ∧ changed.dispatch.bodies = r.dispatch.bodies ∧
          r.dispatch.switch = Dispatch.opening ++ String.join r.caseTexts ++ Dispatch.closing ∧
          changed.dispatch.switch =
            Dispatch.opening ++ String.join changed.caseTexts ++ Dispatch.closing ∧
          changed.caseTexts.length = r.caseTexts.length ∧
          ∀ other, other ≠ number → changed.caseTexts[other]? = r.caseTexts[other]? := by
  intro r later
  obtain ⟨hdeclarations, hdispatch⟩ :=
    Registry.source_eq_of_written (Registry.written_run hquiet)
  refine ⟨⟨hdeclarations, hdispatch⟩, ?_, ?_⟩
  · intro request
    have hrequest := request.withTextures_congr hdeclarations hdispatch
    refine ⟨congrArg Request.assemble hrequest, ?_⟩
    intro cache key hholds
    rw [hrequest]
    exact ⟨hholds.needsRebuild, hholds.getOrAssemble⟩
  · intro number t t' input ht hset changed
    obtain ⟨hdeclarations, hbodies, hlength, hothers⟩ := Registry.source_step_set ht hset
    exact ⟨hdeclarations, hbodies, r.switch_eq, changed.switch_eq, hlength, hothers⟩

/-- Two instances with a constant each, that of the first one set to 1. -/
theorem source_stable_tinted :
    let r := Registry.after ⟨[Registry.tinted]⟩ [.texture "tinted" .empty, .texture "tinted" .empty]
    let later := r.run [.set 0 "scale" (.int 3), .set 1 "material" (.vec2 ⟨0, 0⟩), .markDirty 1,
      .setVariant 0 .planar, .texture "plain" .empty, .upload]
    let changed := r.step (.set 0 "material" (.int 1))
    let request := Request.ofScene "vec2(0.)"
    let cache := (Cache.empty.getOrAssemble "main" (request.withTextures r)).1
    cache.needsRebuild "main" (request.withTextures later) = false ∧
      changed.caseTexts[0]? ≠ r.caseTexts[0]? ∧ changed.caseTexts[1]? = r.caseTexts[1]? := by
  intro r later changed request cache
  obtain ⟨_, hlater, hchanged⟩ := source_stable_after ⟨[Registry.tinted]⟩
    [.texture "tinted" .empty, .texture "tinted" .empty]
    [.set 0 "scale" (.int 3), .set 1 "material" (.vec2 ⟨0, 0⟩), .markDirty 1,
      .setVariant 0 .planar, .texture "plain" .empty, .upload]
    (by decide)
  have hholds : cache.Holds "main" (request.withTextures r) :=
    Cache.holds_getOrAssemble rfl (by decide)
  refine ⟨((hlater request).2 cache "main" hholds).1, by decide +kernel, ?_⟩
  have hsets : (r.get? 0).map (fun t => (t.set "material" (.int 1)).isOk) = some true := by decide
  obtain ⟨t, ht, hset⟩ := Option.map_eq_some_iff.mp hsets
  cases hchange : t.set "material" (.int 1) with
  | error e => rw [hchange] at hset; cases hset
  | ok t' =>
      obtain ⟨_, _, _, _, _, hothers⟩ := hchanged 0 t t' (.int 1) ht hchange
      exact hothers 1 (by decide)

end Fragment

end SphereTrace
