import SphereTrace.Proofs.Texture.Making
import SphereTrace.Texture.Registry

/-! # Runs of a registry

A run is a list of operations in any order. One equation says what a single operation does to the
list of instances: it drops all of them or acts on each, and puts at most one newcomer behind them.
Invariants of runs follow from what registration gives and what a change of one instance keeps.
-/

namespace SphereTrace.Texture

/-- What can be done to a registry. Where an operation on an instance finds none under the number,
or fails, the registry stays as it is. -/
inductive Operation where
  | register (t : Instance) (made : t.Made)
  | texture (kind : String) (overrides : Overrides)
  | clear
  | set (number : Nat) (parameter : String) (input : Input)
  | setVariant (number : Nat) (variant : Variant)
  | markDirty (number : Nat)
  | bind (locations : Locations)
  | upload

namespace Registry

/-- Puts back what an operation makes of the instance under a number. -/
def attempt (r : Registry) (number : Nat) (f : Instance → Except Error Instance) : Registry :=
  match r.get? number with
  | none => r
  | some t =>
    match f t with
    | .error _ => r
    | .ok changed => r.put number changed

def step (r : Registry) : Operation → Registry
  | .register t _ => (r.register t).1
  | .texture kind overrides => (r.texture kind overrides).1
  | .clear => r.clear
  | .set number parameter input => r.attempt number fun t => t.set parameter input
  | .setVariant number variant => r.attempt number fun t => t.setVariant variant
  | .markDirty number => r.attempt number fun t => .ok t.markDirty
  | .bind locations => r.bind locations
  | .upload => r.upload.1

def run (r : Registry) (ops : List Operation) : Registry :=
  ops.foldl step r

@[simp] theorem run_nil (r : Registry) : r.run [] = r := rfl

@[simp] theorem run_cons (r : Registry) (op : Operation) (ops : List Operation) :
    r.run (op :: ops) = (r.step op).run ops := rfl

@[simp] theorem run_append (r : Registry) (first second : List Operation) :
    r.run (first ++ second) = (r.run first).run second :=
  List.foldl_append

end Registry

namespace Operation

/-- The instance that an operation has registered, before it is numbered. -/
def newcomer? (c : Catalog) : Operation → Option Instance
  | register t _ => some t
  | texture kind overrides => (({ catalog := c } : Registry).instantiate kind overrides).1
  | _ => none

/-- What an operation makes of an instance under a number that stays in the registry. -/
def act (op : Operation) (number : Nat) (t : Instance) : Instance :=
  match op with
  | set target parameter input =>
    if target = number then (t.set parameter input).toOption.getD t else t
  | setVariant target variant =>
    if target = number then (t.setVariant variant).toOption.getD t else t
  | markDirty target => if target = number then t.markDirty else t
  | bind locations => t.bind locations
  | upload => t.upload.1
  | register _ _ | texture _ _ | clear => t

/-- Everything that the operation has registered is of a kind with some property. -/
def Brings (c : Catalog) (P : Kind → Prop) (op : Operation) : Prop :=
  ∀ t, op.newcomer? c = some t → P t.kind

/-- What is instantiated by name is a new instance of a kind of the catalog. -/
theorem ofKind_of_newcomer? {c : Catalog} {kind : String} {overrides : Overrides} {t : Instance}
    (h : (texture kind overrides).newcomer? c = some t) :
    ∃ k ∈ c.kinds, ∃ warnings, Instance.ofKind k overrides = .ok (t, warnings) := by
  simp only [newcomer?, Registry.instantiate] at h
  split at h
  next new warnings hnew =>
    cases h
    unfold Registry.tryInstantiate at hnew
    split at hnew
    next => cases hnew
    next k hk => exact ⟨k, List.mem_of_find?_eq_some hk, warnings, hnew⟩
  next => cases h

theorem newcomer?_made {c : Catalog} {op : Operation} {t : Instance}
    (h : op.newcomer? c = some t) : t.Made := by
  cases op with
  | register new made => cases h; exact made
  | texture kind overrides =>
      obtain ⟨_, _, _, hnew⟩ := ofKind_of_newcomer? h
      exact .ofKind hnew
  | _ => cases h

theorem brings_texture (c : Catalog) (kind : String) (overrides : Overrides) :
    (texture kind overrides).Brings c (· ∈ c.kinds) := by
  intro t ht
  obtain ⟨k, hk, _, hnew⟩ := ofKind_of_newcomer? ht
  rw [Instance.kind_ofKind hnew]
  exact hk

/-- An assignment changes the instance under its number if it succeeds, and nothing otherwise. -/
theorem act_set (target number : Nat) (parameter : String) (input : Input) (t : Instance) :
    (target = number ∧
        t.set parameter input = .ok ((set target parameter input).act number t)) ∨
      ((set target parameter input).act number t = t ∧
        (target = number → ∀ changed, t.set parameter input ≠ .ok changed)) := by
  simp only [act]
  split
  next htarget =>
    cases hset : t.set parameter input with
    | error e => exact .inr ⟨rfl, nofun⟩
    | ok changed => exact .inl ⟨htarget, rfl⟩
  next htarget => exact .inr ⟨rfl, fun h => absurd h htarget⟩

theorem act_setVariant (target number : Nat) (variant : Variant) (t : Instance) :
    t.setVariant variant = .ok ((setVariant target variant).act number t) ∨
      (setVariant target variant).act number t = t := by
  simp only [act]
  split
  next =>
    cases hset : t.setVariant variant with
    | error e => exact .inr rfl
    | ok changed => exact .inl rfl
  next => exact .inr rfl

/-- The selected variant has no part in the parameters. -/
theorem parameters_act_setVariant (target number : Nat) (variant : Variant) (t : Instance) :
    ((setVariant target variant).act number t).parameters = t.parameters := by
  rcases act_setVariant target number variant t with hset | hsame
  · obtain ⟨_, heq⟩ := Instance.setVariant_eq_ok hset
    rw [heq]
    rfl
  · rw [hsame]

/-- An instance that stays is left alone or changed by one operation. -/
theorem act_eq_or_change (op : Operation) (number : Nat) (t : Instance) :
    op.act number t = t ∨ t.Change (op.act number t) := by
  cases op with
  | set target parameter input =>
      rcases act_set target number parameter input t with ⟨_, hset⟩ | ⟨hsame, _⟩
      · exact .inr (.set hset)
      · exact .inl hsame
  | setVariant target variant =>
      rcases act_setVariant target number variant t with hset | hsame
      · exact .inr (.setVariant hset)
      · exact .inl hsame
  | markDirty target =>
      simp only [act]
      split
      next => exact .inr (.markDirty t)
      next => exact .inl rfl
  | bind locations => exact .inr (.bind t locations)
  | upload => exact .inr (.upload t)
  | _ => exact .inl rfl

end Operation

namespace Registry

variable {r : Registry} {op : Operation}

/-- The instances that an operation does not drop. -/
def remaining (r : Registry) : Operation → List Instance
  | .clear => []
  | _ => r.instances

theorem instances_attempt (r : Registry) (number : Nat) (f : Instance → Except Error Instance) :
    (r.attempt number f).instances = r.instances.mapIdx fun i t =>
      if number = i then (f t).toOption.getD t else t := by
  -- Only the place under the number can differ, so the lists are compared place by place.
  apply List.ext_getElem?
  intro i
  rw [List.getElem?_mapIdx]
  unfold attempt get?
  by_cases hi : number = i
  · subst hi
    cases hnumber : r.instances[number]? with
    | none => simp [hnumber]
    | some t =>
        have hlt := (List.getElem?_eq_some_iff.mp hnumber).1
        cases hf : f t with
        | error e => simp [hnumber, hf, Except.toOption]
        | ok changed => simp [put, hf, hlt, Except.toOption]
  · simp only [hi, if_false, Option.map_id']
    split
    next => rfl
    next =>
      split
      next => rfl
      next => simp only [put, List.getElem?_set_ne hi]

theorem mapIdx_const {α β : Type} (g : α → β) (xs : List α) :
    (xs.mapIdx fun _ x => g x) = xs.map g := by
  apply List.ext_getElem?
  intro i
  rw [List.getElem?_mapIdx, List.getElem?_map]

theorem flatMap_zipIdx_fst {α β : Type} (xs : List α) (f : α → List β) :
    (xs.zipIdx.flatMap fun entry => f entry.1) = xs.flatMap f := by
  rw [← List.flatMap_map Prod.fst f, List.zipIdx_map_fst]

theorem filterMap_zipIdx_fst {α β : Type} (xs : List α) (f : α → Option β) :
    (xs.zipIdx.filterMap fun entry => f entry.1) = xs.filterMap f := by
  change xs.zipIdx.filterMap (f ∘ Prod.fst) = _
  rw [← List.filterMap_map, List.zipIdx_map_fst]

/-- What an operation does to the list of instances. -/
theorem instances_step (r : Registry) (op : Operation) :
    (r.step op).instances = (r.remaining op).mapIdx op.act ++
      (op.newcomer? r.catalog).toList.map fun t => t.assignNumber r.instances.length := by
  have hkept : r.instances.mapIdx (fun _ t => t) = r.instances :=
    (mapIdx_const id _).trans (List.map_id _)
  cases op with
  | register t made =>
      change _ = r.instances.mapIdx (fun _ t => t) ++ _
      rw [hkept]
      rfl
  | texture kind overrides =>
      change _ = r.instances.mapIdx (fun _ t => t) ++
        (r.instantiate kind overrides).1.toList.map _
      rw [hkept]
      simp only [step, texture]
      cases hnew : r.instantiate kind overrides with
      | mk made warnings => cases made <;> simp [register]
  | clear => rfl
  | set number parameter input => exact (instances_attempt _ _ _).trans (List.append_nil _).symm
  | setVariant number variant => exact (instances_attempt _ _ _).trans (List.append_nil _).symm
  | markDirty number => exact (instances_attempt _ _ _).trans (List.append_nil _).symm
  | bind locations =>
      change _ = r.instances.mapIdx (fun _ t => t.bind locations) ++ []
      rw [mapIdx_const, List.append_nil]
      rfl
  | upload =>
      change _ = r.instances.mapIdx (fun _ t => t.upload.1) ++ []
      rw [mapIdx_const, List.append_nil]
      exact List.map_map

@[simp] theorem catalog_step (r : Registry) (op : Operation) :
    (r.step op).catalog = r.catalog := by
  have hattempt : ∀ number f, (r.attempt number f).catalog = r.catalog := fun number f => by
    unfold attempt
    split
    next => rfl
    next => split <;> rfl
  cases op with
  | texture kind overrides =>
      simp only [step, texture]
      split <;> rfl
  | set | setVariant | markDirty => exact hattempt _ _
  | _ => rfl

@[simp] theorem catalog_run (r : Registry) (ops : List Operation) :
    (r.run ops).catalog = r.catalog := by
  induction ops generalizing r with
  | nil => rfl
  | cons op rest ih => rw [run_cons, ih, catalog_step]

/-- Where an instance comes from: it was there and stayed, or it has just been registered. -/
theorem getElem?_step {number : Nat} {t' : Instance}
    (h : (r.step op).instances[number]? = some t') :
    (∃ t, (r.remaining op)[number]? = some t ∧ t' = op.act number t) ∨
      (number = r.instances.length ∧
        ∃ t, op.newcomer? r.catalog = some t ∧ t' = t.assignNumber number) := by
  rw [instances_step] at h
  -- Behind what remains there is room for one instance only.
  rcases Nat.lt_or_ge number (r.remaining op).length with hlt | hge
  · rw [List.getElem?_append_left (by simpa using hlt), List.getElem?_mapIdx] at h
    obtain ⟨t, ht, rfl⟩ := Option.map_eq_some_iff.mp h
    exact .inl ⟨t, ht, rfl⟩
  · rw [List.getElem?_append_right (by simpa using hge)] at h
    cases hnew : op.newcomer? r.catalog with
    | none => simp [hnew] at h
    | some t =>
        have hremaining : r.remaining op = r.instances := by
          cases op <;> first | rfl | cases hnew
        have hlt := (List.getElem?_eq_some_iff.mp h).1
        simp only [hnew, hremaining, List.length_mapIdx, Option.toList_some, List.map_cons,
          List.map_nil, List.length_singleton] at hlt hge
        obtain rfl : number = r.instances.length := by omega
        simp only [hnew, hremaining, List.length_mapIdx, Nat.sub_self, Option.toList_some,
          List.map_cons, List.map_nil, List.getElem?_cons_zero, Option.some.injEq] at h
        exact .inr ⟨rfl, t, rfl, h.symm⟩

theorem getElem?_remaining {number : Nat} {t : Instance}
    (h : (r.remaining op)[number]? = some t) : r.instances[number]? = some t := by
  cases op with
  | clear => cases h
  | _ => exact h

/-- A property of numbered instances holds throughout a run if registration gives it and no
operation on a single instance takes it away. -/
theorem forall_run {Q : Nat → Instance → Prop} {P : Kind → Prop} {ops : List Operation}
    (hinitial : ∀ number (t : Instance), r.instances[number]? = some t → Q number t)
    (hops : ∀ op ∈ ops, op.Brings r.catalog P)
    (hregister : ∀ number (t : Instance), t.Made → P t.kind → Q number (t.assignNumber number))
    (hchange : ∀ number (t t' : Instance), Q number t → t.Change t' → Q number t') :
    ∀ number (t : Instance), (r.run ops).instances[number]? = some t → Q number t := by
  -- What holds before the first operation has to hold before the second, so `r` is general.
  induction ops generalizing r with
  | nil => exact hinitial
  | cons op rest ih =>
      apply ih
      · intro number t' ht'
        rcases getElem?_step ht' with ⟨t, ht, rfl⟩ | ⟨_, t, hnew, rfl⟩
        · have hold := hinitial number t (getElem?_remaining ht)
          rcases op.act_eq_or_change number t with hsame | hact
          · rw [hsame]; exact hold
          · exact hchange number t _ hold hact
        · exact hregister number t (Operation.newcomer?_made hnew)
            (hops op List.mem_cons_self t hnew)
      · intro other hother
        rw [catalog_step]
        exact hops other (List.mem_cons_of_mem _ hother)

/-- No kinds stand in the registry but those from before the run and those it brings in. -/
theorem kind_run {P : Kind → Prop} {ops : List Operation} (hr : ∀ t ∈ r.instances, P t.kind)
    (hops : ∀ op ∈ ops, op.Brings r.catalog P) : ∀ t ∈ (r.run ops).instances, P t.kind := by
  intro t ht
  obtain ⟨number, ht⟩ := List.mem_iff_getElem?.mp ht
  refine forall_run (Q := fun _ t => P t.kind) ?_ hops (fun _ _ _ h => h) ?_ number t ht
  · intro number t ht
    exact hr t (List.mem_of_getElem? ht)
  · intro _ t t' hkind hchange
    rw [hchange.kind_eq]
    exact hkind

/-- The registry that a run over a catalog ends in. -/
def after (c : Catalog) (ops : List Operation) : Registry :=
  ({ catalog := c } : Registry).run ops

@[simp] theorem catalog_after (c : Catalog) (ops : List Operation) :
    (after c ops).catalog = c :=
  catalog_run _ _

theorem after_append (c : Catalog) (first second : List Operation) :
    after c (first ++ second) = (after c first).run second :=
  run_append _ _ _

theorem after_concat (c : Catalog) (ops : List Operation) (op : Operation) :
    after c (ops ++ [op]) = (after c ops).step op :=
  run_append _ _ _

/-- Under each number stands a well-formed instance that carries the number. -/
theorem wellFormed_after (c : Catalog) (ops : List Operation) :
    ∀ number (t : Instance), (after c ops).instances[number]? = some t →
      t.WellFormed ∧ t.NumberedAs number := by
  refine forall_run (Q := fun number t => t.WellFormed ∧ t.NumberedAs number)
    (P := fun _ => True) ?_ ?_ ?_ ?_
  · intro number t ht
    simp at ht
  · intro op _ t _
    trivial
  · intro number t hmade _
    exact hmade.wellFormed.assignNumber number
  · intro number t t' ht hchange
    exact ⟨hchange.wellFormed ht.1, hchange.numberedAs ht.2⟩

theorem kind_after {c : Catalog} {P : Kind → Prop} {ops : List Operation}
    (hops : ∀ op ∈ ops, op.Brings c P) : ∀ t ∈ (after c ops).instances, P t.kind :=
  kind_run (by simp) hops

end Registry

end SphereTrace.Texture
