import Mathlib.Data.List.Induction
import SphereTrace.Proofs.Texture.Run
import SphereTrace.Proofs.Texture.Sending

/-! # What an upload writes

Whether a uniform is dirty is a hidden flag. It is the history that decides it: a uniform is dirty
exactly if something has touched it since the last upload. An upload therefore writes what was
touched and has a location, and nothing is left for a second upload to do.
-/

namespace SphereTrace.Texture

/-- The operation gives a reason to write the parameter at a place of the instance under a number:
it registers the instance, sets the parameter with success (to whatever value), marks the instance,
or takes new locations. -/
def Operation.Touches (r : Registry) (number place : Nat) : Operation → Prop
  | .register t _ => (r.register t).2 = number
  | .texture kind overrides => (r.texture kind overrides).2.1 = some number
  | .set target parameter input => target = number ∧ ∃ t changed, r.get? number = some t ∧
      t.kind.place? parameter = some place ∧ t.set parameter input = .ok changed
  | .markDirty target => target = number
  | .bind _ => True
  | .clear | .setVariant _ _ | .upload => False

/-- Something has touched the parameter since the last upload. An instance that was dropped and the
one that took its number are not the same, so nothing from before a clearing counts. -/
def Touched (c : Catalog) (ops : List Operation) (number place : Nat) : Prop :=
  ∃ before op since, ops = before ++ op :: since ∧
    op.Touches (Registry.after c before) number place ∧
    ∀ later ∈ since, later ≠ .upload ∧ later ≠ .clear

/-- One more operation touches by itself, or keeps what was touched unless it uploads or clears. -/
theorem touched_concat (c : Catalog) (ops : List Operation) (op : Operation)
    (number place : Nat) :
    Touched c (ops ++ [op]) number place ↔
      op.Touches (Registry.after c ops) number place ∨
        (op ≠ .upload ∧ op ≠ .clear ∧ Touched c ops number place) := by
  constructor
  · rintro ⟨before, first, since, hsplit, htouches, hsince⟩
    -- What touched is the last operation itself, or the last operation came after it.
    rcases since.eq_nil_or_concat with rfl | ⟨since', last, rfl⟩
    · obtain ⟨rfl, hlast⟩ := List.append_inj' hsplit rfl
      cases hlast
      exact .inl htouches
    · rw [List.concat_eq_append, ← List.cons_append, ← List.append_assoc] at hsplit
      obtain ⟨rfl, hlast⟩ := List.append_inj' hsplit rfl
      cases hlast
      obtain ⟨hupload, hclear⟩ := hsince op (by simp)
      exact .inr ⟨hupload, hclear, before, first, since', rfl, htouches,
        fun later hlater => hsince later (by simp [hlater])⟩
  · rintro (htouches | ⟨hupload, hclear, before, first, since, rfl, htouches, hsince⟩)
    · exact ⟨ops, op, [], rfl, htouches, by simp⟩
    · refine ⟨before, first, since ++ [op], by simp, htouches, ?_⟩
      intro later hlater
      rcases List.mem_append.mp hlater with hold | hnew
      · exact hsince later hold
      · rw [List.mem_singleton.mp hnew]
        exact ⟨hupload, hclear⟩

namespace Instance

theorem mapBacked_fst_idem {β : Type} {f : Uniform → Uniform × β}
    (hf : ∀ u, (f (f u).1).1 = (f u).1) (ps : List Parameter) (us : List Uniform) :
    (mapBacked f ps (mapBacked f ps us).1).1 = (mapBacked f ps us).1 := by
  induction ps generalizing us with
  | nil => cases us <;> rfl
  | cons p rest ih =>
      cases us with
      | nil => rfl
      | cons u others =>
          have htail := ih others
          by_cases hp : p.isUniform <;> simp [mapBacked, hp, hf, htail]

theorem upload_upload (t : Instance) : t.upload.1.upload = (t.upload.1, []) := by
  apply Prod.ext
  · have hsame := mapBacked_fst_idem (f := Uniform.upload)
      (fun u => by rw [Uniform.upload_of_clean u.dirty_upload])
      t.kind.parameters t.uniforms
    simp only [upload, hsame]
  · rw [upload_snd, parameters_upload, List.filterMap_map]
    apply List.filterMap_eq_nil_iff.mpr
    rintro ⟨p, u⟩ _
    by_cases hp : p.isUniform <;>
      simp [onBacked, hp, Uniform.upload_of_clean u.dirty_upload]

theorem isDirty_upload (t : Instance) : t.upload.1.isDirty = false := by
  rw [isDirty, declared_of_onBacked parameters_upload, List.any_eq_false]
  intro u hu
  obtain ⟨old, _, rfl⟩ := List.mem_map.mp hu
  simp

end Instance

namespace Registry

variable {r : Registry} {number place : Nat} {t : Instance} {p : Parameter} {u : Uniform}

theorem texture_number (r : Registry) (kind : String) (overrides : Overrides) :
    (r.texture kind overrides).2.1 =
      (r.instantiate kind overrides).1.map fun _ => r.instances.length := by
  unfold texture
  split
  next hmade => rw [hmade]; rfl
  next hmade => rw [hmade]; rfl

theorem touches_of_newcomer {op : Operation} (place : Nat)
    (h : op.newcomer? r.catalog = some t) : op.Touches r r.instances.length place := by
  cases op with
  | register new made => rfl
  | texture kind overrides =>
      have hnew : (r.instantiate kind overrides).1 = some t := h
      simp only [Operation.Touches, texture_number, hnew, Option.map_some]
  | _ => cases h

/-- What an operation does to the flag of a parameter that stays in the registry. -/
theorem dirty_act (op : Operation) (ht : r.instances[number]? = some t)
    (hu : (op.act number t).parameters[place]? = some (p, u)) (hp : p.isUniform = true) :
    ∃ old, t.parameters[place]? = some (p, old) ∧
      (u.dirty = true ↔ op.Touches r number place ∨ (op ≠ .upload ∧ old.dirty = true)) := by
  have hlt := (List.getElem?_eq_some_iff.mp ht).1
  cases op with
  | register new made =>
      refine ⟨u, hu, ?_⟩
      have hne : (r.register new).2 ≠ number := Nat.ne_of_gt hlt
      simp [Operation.Touches, hne]
  | texture kind overrides =>
      refine ⟨u, hu, ?_⟩
      have hne : (r.texture kind overrides).2.1 ≠ some number := by
        rw [texture_number]
        cases (r.instantiate kind overrides).1 with
        | none => simp
        | some new => simpa using Nat.ne_of_gt hlt
      simp [Operation.Touches, hne]
  | clear => exact ⟨u, hu, by simp [Operation.Touches]⟩
  | set target parameter input =>
      rcases Operation.act_set target number parameter input t with
        ⟨htarget, hset⟩ | ⟨hsame, hfails⟩
      · obtain ⟨old, hold, ⟨hplace, value, rfl⟩ | ⟨hplace, rfl⟩⟩ :=
          Instance.getElem?_parameters_of_set hset hu
        · exact ⟨old, hold, by simp [Operation.Touches, htarget, get?, ht, hplace, hset]⟩
        · exact ⟨u, hold, by simp [Operation.Touches, get?, ht, hplace]⟩
      · rw [hsame] at hu
        refine ⟨u, hu, ?_⟩
        have hnone : ¬ (Operation.set target parameter input).Touches r number place := by
          rintro ⟨htarget, found, changed, hfound, _, hset⟩
          obtain rfl : t = found := Option.some.inj (ht.symm.trans hfound)
          exact hfails htarget changed hset
        simp [hnone]
  | setVariant target variant =>
      rw [Operation.parameters_act_setVariant] at hu
      exact ⟨u, hu, by simp [Operation.Touches]⟩
  | markDirty target =>
      simp only [Operation.act] at hu
      by_cases htarget : target = number
      · rw [if_pos htarget, Instance.parameters_markDirty, List.getElem?_map] at hu
        obtain ⟨⟨q, old⟩, hold, heq⟩ := Option.map_eq_some_iff.mp hu
        obtain ⟨rfl, rfl⟩ := Prod.mk.inj heq
        exact ⟨old, hold, by simp [Operation.Touches, htarget, Uniform.markDirty]⟩
      · rw [if_neg htarget] at hu
        exact ⟨u, hu, by simp [Operation.Touches, htarget]⟩
  | bind locations =>
      simp only [Operation.act, Instance.parameters_bind, List.getElem?_map] at hu
      obtain ⟨⟨q, old⟩, hold, heq⟩ := Option.map_eq_some_iff.mp hu
      obtain ⟨rfl, rfl⟩ := Prod.mk.inj heq
      refine ⟨old, hold, ?_⟩
      have hbacked : q.isUniform = true := hp
      simp [Operation.Touches, hbacked, Uniform.bind]
  | upload =>
      simp only [Operation.act, Instance.parameters_upload, List.getElem?_map] at hu
      obtain ⟨⟨q, old⟩, hold, heq⟩ := Option.map_eq_some_iff.mp hu
      obtain ⟨rfl, rfl⟩ := Prod.mk.inj heq
      refine ⟨old, hold, ?_⟩
      have hbacked : q.isUniform = true := hp
      simp [Operation.Touches, hbacked]

/-- The flag of a uniform is decided by the history of the run. -/
theorem dirty_iff_touched (c : Catalog) (ops : List Operation)
    (ht : (after c ops).instances[number]? = some t)
    (hu : t.parameters[place]? = some (p, u)) (hp : p.isUniform = true) :
    u.dirty = true ↔ Touched c ops number place := by
  -- From the end of the history: the flag before the last operation is settled by the rest of it.
  induction ops using List.reverseRecOn generalizing t u with
  | nil => simp [after] at ht
  | append_singleton ops op ih =>
      rw [touched_concat]
      rw [after_concat] at ht
      rcases getElem?_step ht with ⟨old, hold, rfl⟩ | ⟨hnumber, new, hnew, rfl⟩
      · have hclear : op ≠ .clear := by
          rintro rfl
          cases hold
        have hold := getElem?_remaining hold
        obtain ⟨before, hbefore, hflag⟩ := dirty_act op hold hu hp
        rw [hflag, ih hold hbefore]
        simp [hclear]
      · rw [Instance.parameters_assignNumber, List.getElem?_map] at hu
        obtain ⟨entry, _, heq⟩ := Option.map_eq_some_iff.mp hu
        obtain ⟨-, rfl⟩ := Prod.mk.inj heq
        have htouches := touches_of_newcomer place hnew
        rw [← hnumber] at htouches
        simp [Uniform.rename, htouches]

/-- The writes of located uniforms, by instance and then by parameter, for those places where a
condition holds. -/
def writesWhere (r : Registry) (P : Nat → Nat → Prop) [∀ number place, Decidable (P number place)] :
    List Write :=
  r.instances.zipIdx.flatMap fun (t, number) =>
    t.parameters.zipIdx.filterMap fun ((p, u), place) =>
      if p.isUniform ∧ P number place then u.location.map fun location => ⟨location, u.value⟩
      else none

/-- After a run, the history decides what an upload writes. -/
theorem upload_snd_after (c : Catalog) (ops : List Operation)
    [∀ number place, Decidable (Touched c ops number place)] :
    (after c ops).upload.2 = (after c ops).writesWhere (Touched c ops) := by
  rw [upload_snd, ← flatMap_zipIdx_fst]
  apply List.flatMap_congr
  rintro ⟨t, number⟩ ht
  have ht := List.mem_zipIdx_iff_getElem?.mp ht
  rw [Instance.upload_snd, ← filterMap_zipIdx_fst]
  apply List.filterMap_congr
  rintro ⟨⟨p, u⟩, place⟩ hu
  have hu := List.mem_zipIdx_iff_getElem?.mp hu
  by_cases hp : p.isUniform = true
  · have hdirty := dirty_iff_touched c ops ht hu hp
    by_cases htouched : Touched c ops number place
    · simp [Uniform.upload, hp, htouched, hdirty.mpr htouched]
    · simp [Uniform.upload, hp, htouched, mt hdirty.mp htouched]
  · simp [hp]

theorem isDirty_upload (r : Registry) : ∀ t ∈ r.upload.1.instances, t.isDirty = false := by
  intro t ht
  rw [upload_fst] at ht
  obtain ⟨old, _, rfl⟩ := List.mem_map.mp ht
  exact old.isDirty_upload

/-- A second upload finds nothing to do. -/
theorem upload_upload (r : Registry) : r.upload.1.upload = (r.upload.1, []) := by
  apply Prod.ext
  · simp [upload_fst, Instance.upload_upload]
  · simp [upload_fst, upload_snd, Instance.upload_upload]

open Classical in
/-- An upload after any run sends to the program, in order and once each, the current values of
exactly those located uniforms that were touched since the upload before it, and answers with their
number. No instance is dirty afterwards, and an upload to any program then sends nothing and
changes nothing. -/
theorem send_after {σ : Type} (c : Catalog) (ops : List Operation) (write : σ → Write → σ)
    (program : σ) :
    let r := after c ops
    let writes := r.writesWhere (Touched c ops)
    r.send write program = (r.upload.1, writes.foldl write program, writes.length) ∧
      (∀ t ∈ r.upload.1.instances, t.isDirty = false) ∧
      ∀ {τ : Type} (write' : τ → Write → τ) (program' : τ),
        r.upload.1.send write' program' = (r.upload.1, program', 0) := by
  intro r writes
  refine ⟨?_, isDirty_upload r, ?_⟩
  · rw [send_eq, upload_snd_after]
  · intro τ write' program'
    rw [send_eq, upload_upload]
    rfl

end Registry

end SphereTrace.Texture
