import SphereTrace.Proofs.Texture.Naming
import SphereTrace.Proofs.Texture.UploadSet

/-! # Agreement between a registry and its program

A program keeps the last value it received at each location. While a registry is bound to one
program only, a uniform that is clean and has a location agrees with what the program keeps there, whatever
is done in between. Clean uniforms are not sent again, so this needs that no other uniform ever
writes to their location.
-/

namespace SphereTrace

open Glsl (Value)

/-- The value that a program keeps at a location: that of the last write it received there. -/
def latest? (location : Location) (received : List Write) : Option Value :=
  (received.reverse.find? fun w => w.location = location).map Write.value

theorem latest?_append (location : Location) (earlier later : List Write) :
    latest? location (earlier ++ later) =
      (latest? location later).or (latest? location earlier) := by
  simp only [latest?, List.reverse_append, List.find?_append]
  cases List.find? _ later.reverse <;> rfl

theorem latest?_eq_none {location : Location} {received : List Write}
    (h : ∀ w ∈ received, w.location ≠ location) : latest? location received = none := by
  simpa [latest?] using h

/-- Where all writes to a location agree and there is one, the program keeps their value. -/
theorem latest?_eq_some {location : Location} {received : List Write} {value : Value}
    (hmem : ⟨location, value⟩ ∈ received)
    (hsame : ∀ w ∈ received, w.location = location → w.value = value) :
    latest? location received = some value := by
  unfold latest?
  cases hfind : received.reverse.find? fun w => w.location = location with
  | none =>
      rw [List.find?_eq_none] at hfind
      have hnone := hfind _ (List.mem_reverse.mpr hmem)
      simp at hnone
  | some w =>
      have hlocation : w.location = location := by simpa using List.find?_some hfind
      have hw := hsame w (List.mem_reverse.mp (List.mem_of_find?_eq_some hfind)) hlocation
      rw [Option.map_some, hw]

namespace Texture

namespace Instance

variable {t : Instance} {u : Uniform}

theorem mem_declared_of_set {t' : Instance} {name : String} {input : Input}
    (h : t.set name input = .ok t') (hu : u ∈ t'.declared) :
    ∃ old ∈ t.declared, u.name = old.name ∧ u.location = old.location ∧
      (u = old ∨ u.dirty = true) := by
  obtain ⟨p, hmem, hp⟩ := mem_declared.mp hu
  obtain ⟨place, hplace⟩ := List.mem_iff_getElem?.mp hmem
  obtain ⟨old, hold, hchanged⟩ := getElem?_parameters_of_set h hplace
  refine ⟨old, mem_declared.mpr ⟨p, List.mem_of_getElem? hold, hp⟩, ?_⟩
  rcases hchanged with ⟨_, value, rfl⟩ | ⟨_, rfl⟩
  · exact ⟨rfl, rfl, .inr rfl⟩
  · exact ⟨rfl, rfl, .inl rfl⟩

end Instance

namespace Operation

/-- The operation has given the uniform its location. -/
def Binds (op : Operation) (u : Uniform) : Prop :=
  ∃ locations, op = .bind locations ∧ u.location = locations u.name ∧ u.dirty = true

/-- The uniform has the name and the location of an old one: it is that one, just uploaded, or else
that one as it was, or dirty. -/
def Carries (op : Operation) (old u : Uniform) : Prop :=
  u.name = old.name ∧ u.location = old.location ∧
    (op = .upload ∧ u = old.upload.1 ∨ op ≠ .upload ∧ (u = old ∨ u.dirty = true))

theorem carries_self {op : Operation} (hop : op ≠ .upload) (u : Uniform) : op.Carries u u :=
  ⟨rfl, rfl, .inr ⟨hop, .inl rfl⟩⟩

/-- Where the declared uniforms of an instance that stays come from. -/
theorem mem_declared_act {op : Operation} {number : Nat} {t : Instance} {u : Uniform}
    (hu : u ∈ (op.act number t).declared) :
    op.Binds u ∨ ∃ old ∈ t.declared, op.Carries old u := by
  cases op with
  | register | texture | clear => exact .inr ⟨u, hu, carries_self (by simp) u⟩
  | set target parameter input =>
      rcases act_set target number parameter input t with ⟨_, hset⟩ | ⟨hsame, _⟩
      · obtain ⟨old, hold, hname, hlocation, hor⟩ := Instance.mem_declared_of_set hset hu
        exact .inr ⟨old, hold, hname, hlocation, .inr ⟨by simp, hor⟩⟩
      · rw [hsame] at hu
        exact .inr ⟨u, hu, carries_self (by simp) u⟩
  | setVariant target variant =>
      rw [Instance.declared, parameters_act_setVariant] at hu
      exact .inr ⟨u, hu, carries_self (by simp) u⟩
  | markDirty target =>
      simp only [act] at hu
      split at hu
      next =>
        rw [Instance.declared_markDirty] at hu
        obtain ⟨old, hold, rfl⟩ := List.mem_map.mp hu
        exact .inr ⟨old, hold, rfl, rfl, .inr ⟨by simp, .inr rfl⟩⟩
      next => exact .inr ⟨u, hu, carries_self (by simp) u⟩
  | bind locations =>
      rw [act, Instance.declared_of_onBacked (Instance.parameters_bind locations)] at hu
      obtain ⟨old, _, rfl⟩ := List.mem_map.mp hu
      exact .inl ⟨locations, rfl, rfl, rfl⟩
  | upload =>
      rw [act, Instance.declared_of_onBacked Instance.parameters_upload] at hu
      obtain ⟨old, hold, rfl⟩ := List.mem_map.mp hu
      exact .inr ⟨old, hold, old.name_upload, old.location_upload, .inl ⟨rfl, rfl⟩⟩

end Operation

namespace Registry

variable {r : Registry} {u : Uniform}

theorem mem_declared_iff : u ∈ r.declared ↔ ∃ t ∈ r.instances, u ∈ t.declared :=
  List.mem_flatMap

/-- The writes of an upload are those of its dirty uniforms that have a location. -/
theorem mem_upload_snd {w : Write} :
    w ∈ r.upload.2 ↔ ∃ u ∈ r.declared, u.dirty = true ∧ u.location = some w.location ∧
      u.value = w.value := by
  rw [upload_snd_declared, List.mem_filterMap]
  constructor
  · rintro ⟨u, hu, hw⟩
    unfold Uniform.upload at hw
    split at hw
    next hdirty =>
      obtain ⟨location, hlocation, rfl⟩ := Option.map_eq_some_iff.mp hw
      exact ⟨u, hu, hdirty, hlocation, rfl⟩
    next => cases hw
  · rintro ⟨u, hu, hdirty, hlocation, hvalue⟩
    exact ⟨u, hu, by simp [Uniform.upload, hdirty, hlocation, hvalue]⟩

/-- What one operation can do to a uniform that stands in the program: the uniform is new, or bound
again, or carried over. -/
theorem mem_declared_step {op : Operation} (hu : u ∈ (r.step op).declared) :
    u.location = none ∨ op.Binds u ∨ ∃ old ∈ r.declared, op.Carries old u := by
  obtain ⟨t', ht', hu⟩ := mem_declared_iff.mp hu
  obtain ⟨number, ht'⟩ := List.mem_iff_getElem?.mp ht'
  rcases getElem?_step ht' with ⟨t, ht, rfl⟩ | ⟨_, t, _, rfl⟩
  · have hmem := List.mem_iff_getElem?.mpr ⟨number, getElem?_remaining ht⟩
    rcases Operation.mem_declared_act hu with hbinds | ⟨old, hold, hcarries⟩
    · exact .inr (.inl hbinds)
    · exact .inr (.inr ⟨old, mem_declared_iff.mpr ⟨t, hmem, hold⟩, hcarries⟩)
  · obtain ⟨p, hmem, _⟩ := Instance.mem_declared.mp hu
    rw [Instance.parameters_assignNumber] at hmem
    obtain ⟨entry, _, heq⟩ := List.mem_map.mp hmem
    obtain ⟨_, rfl⟩ := Prod.mk.inj heq
    exact .inl rfl

end Registry

/-- A registry and all that its program has received, latest last. -/
structure Link where
  registry : Registry
  received : List Write

namespace Link

/-- Only an upload reaches the program. -/
def step (s : Link) : Operation → Link
  | .upload =>
    let (registry, received, _) := s.registry.send (fun log w => log ++ [w]) s.received
    ⟨registry, received⟩
  | op => ⟨s.registry.step op, s.received⟩

def run (s : Link) (ops : List Operation) : Link :=
  ops.foldl step s

variable {s : Link} {P : Locations} {op : Operation}

theorem foldl_concat (log writes : List Write) :
    writes.foldl (fun log w => log ++ [w]) log = log ++ writes := by
  rw [List.foldl_append_eq_append, ← List.flatMap_def, List.flatMap_singleton']

theorem step_upload (s : Link) :
    s.step .upload = ⟨s.registry.upload.1, s.received ++ s.registry.upload.2⟩ := by
  simp only [step, Registry.send_eq, foldl_concat]

theorem step_of_ne_upload (hop : op ≠ .upload) :
    s.step op = ⟨s.registry.step op, s.received⟩ := by
  cases op <;> first | rfl | exact absurd rfl hop

@[simp] theorem registry_step (s : Link) (op : Operation) :
    (s.step op).registry = s.registry.step op := by
  by_cases hop : op = .upload
  · rw [hop, step_upload]; rfl
  · rw [step_of_ne_upload hop]

theorem run_concat (s : Link) (ops : List Operation) (op : Operation) :
    s.run (ops ++ [op]) = (s.run ops).step op :=
  List.foldl_append

@[simp] theorem registry_run (s : Link) (ops : List Operation) :
    (s.run ops).registry = s.registry.run ops := by
  induction ops using List.reverseRecOn with
  | nil => rfl
  | append_singleton ops op ih => rw [run_concat, registry_step, ih, Registry.run_append]; rfl

/-- Each uniform stands at the location of its name, and the program keeps the value of each
clean one there. -/
structure Agrees (s : Link) (P : Locations) : Prop where
  located : ∀ u ∈ s.registry.declared, ∀ l, u.location = some l → P u.name = some l
  current : ∀ u ∈ s.registry.declared, ∀ l, u.location = some l → u.dirty = false →
    latest? l s.received = some u.value

/-- Two uniforms do not share a location where names are distinct. -/
theorem Agrees.eq_of_location (h : s.Agrees P) (hP : ∀ a b l, P a = some l → P b = some l → a = b)
    (hnames : (s.registry.declared.map Uniform.name).Nodup) {u v : Uniform} {l : Location}
    (hu : u ∈ s.registry.declared) (hv : v ∈ s.registry.declared) (hul : u.location = some l)
    (hvl : v.location = some l) : u = v :=
  List.inj_on_of_nodup_map hnames hu hv (hP _ _ l (h.located u hu l hul) (h.located v hv l hvl))

/-- What the program keeps for a uniform right after an upload. -/
theorem Agrees.latest?_upload (h : s.Agrees P)
    (hP : ∀ a b l, P a = some l → P b = some l → a = b)
    (hnames : (s.registry.declared.map Uniform.name).Nodup) {u : Uniform} {l : Location}
    (hu : u ∈ s.registry.declared) (hl : u.location = some l) :
    latest? l (s.received ++ s.registry.upload.2) = some u.value := by
  -- A write of this upload to the location is the uniform's own, as no other stands there.
  have hmine : ∀ w ∈ s.registry.upload.2, w.location = l → u.dirty = true ∧ w.value = u.value := by
    intro w hw hlocation
    obtain ⟨v, hv, hdirty, hvl, hvalue⟩ := Registry.mem_upload_snd.mp hw
    rw [hlocation] at hvl
    obtain rfl := h.eq_of_location hP hnames hu hv hl hvl
    exact ⟨hdirty, hvalue.symm⟩
  rw [latest?_append]
  -- A dirty uniform has just been written. For a clean one the old write is still the last.
  cases hdirty : u.dirty with
  | true =>
      have hmem : ⟨l, u.value⟩ ∈ s.registry.upload.2 :=
        Registry.mem_upload_snd.mpr ⟨u, hu, hdirty, hl, rfl⟩
      rw [latest?_eq_some hmem fun w hw hlocation => (hmine w hw hlocation).2, Option.some_or]
  | false =>
      have hnone : latest? l s.registry.upload.2 = none := by
        apply latest?_eq_none
        intro w hw hlocation
        rw [(hmine w hw hlocation).1] at hdirty
        cases hdirty
      rw [hnone, Option.none_or, h.current u hu l hl hdirty]

theorem Agrees.step (h : s.Agrees P) (hP : ∀ a b l, P a = some l → P b = some l → a = b)
    (hnames : (s.registry.declared.map Uniform.name).Nodup)
    (hop : ∀ locations, op = .bind locations → locations = P) : (s.step op).Agrees P := by
  constructor
  · intro u hu l hl
    rw [registry_step] at hu
    rcases Registry.mem_declared_step hu with hnone | ⟨locations, hbind, hlocation, _⟩ |
      ⟨old, hold, hname, hlocation, _⟩
    · rw [hnone] at hl
      cases hl
    · rw [← hop locations hbind, ← hlocation, hl]
    · rw [hname]
      exact h.located old hold l (hlocation ▸ hl)
  · intro u hu l hl hclean
    rw [registry_step] at hu
    rcases Registry.mem_declared_step hu with hnone | ⟨_, _, _, hdirty⟩ |
      ⟨old, hold, hname, hlocation, ⟨rfl, rfl⟩ | ⟨hne, hsame⟩⟩
    · rw [hnone] at hl
      cases hl
    · rw [hdirty] at hclean
      cases hclean
    · rw [step_upload, Uniform.value_upload]
      exact h.latest?_upload hP hnames hold (hlocation ▸ hl)
    · rw [step_of_ne_upload hne]
      rcases hsame with rfl | hdirty
      · exact h.current u hold l hl hclean
      · rw [hdirty] at hclean
        cases hclean

/-- Binding starts the agreement, whatever the program has received before. -/
theorem agrees_bind (r : Registry) (P : Locations) (received : List Write) :
    Agrees ⟨r.bind P, received⟩ P := by
  have hbound : ∀ u ∈ (r.bind P).declared, u.location = P u.name ∧ u.dirty = true := by
    intro u hu
    rw [Registry.declared_bind] at hu
    obtain ⟨old, _, rfl⟩ := List.mem_map.mp hu
    exact ⟨rfl, rfl⟩
  constructor
  · intro u hu l hl
    rw [← (hbound u hu).1, hl]
  · intro u hu l _ hclean
    rw [(hbound u hu).2] at hclean
    cases hclean

section Run

variable {c : Catalog} {before ops : List Operation}

/-- The names stay distinct while only instances of valid kinds come in. -/
theorem nodup_names_run (hbefore : ∀ t ∈ (Registry.after c before).instances,
      t.kind.validate = .ok ())
    (hops : ∀ op ∈ ops, op.Brings c fun k => k.validate = .ok ()) :
    ((((Registry.after c before).bind P).run ops).declared.map Uniform.name).Nodup := by
  have hrun : ((Registry.after c before).bind P).run ops =
      Registry.after c (before ++ .bind P :: ops) := by
    rw [Registry.after_append]
    rfl
  have hbound : ∀ t ∈ ((Registry.after c before).bind P).instances, t.kind.validate = .ok () := by
    intro t' ht'
    obtain ⟨t, ht, rfl⟩ := List.mem_map.mp ht'
    exact hbefore t ht
  have hcatalog : ((Registry.after c before).bind P).catalog = c := Registry.catalog_after c before
  rw [← hcatalog] at hops
  have hvalid := Registry.kind_run hbound hops
  rw [hrun] at hvalid ⊢
  exact Registry.nodup_names_after hvalid

theorem agrees_run (hP : ∀ a b l, P a = some l → P b = some l → a = b)
    (hbefore : ∀ t ∈ (Registry.after c before).instances, t.kind.validate = .ok ())
    (hops : ∀ op ∈ ops, op.Brings c (fun k => k.validate = .ok ()) ∧
      ∀ locations, op = .bind locations → locations = P) (received : List Write) :
    (run ⟨(Registry.after c before).bind P, received⟩ ops).Agrees P := by
  -- The names are distinct in every state on the way, which each step needs again.
  induction ops using List.reverseRecOn with
  | nil => exact agrees_bind _ P received
  | append_singleton ops op ih =>
      have hinit : ∀ other ∈ ops, _ := fun other hother => hops other (by simp [hother])
      have hnames := nodup_names_run (P := P) hbefore fun other hother => (hinit other hother).1
      rw [run_concat]
      refine (ih hinit).step hP ?_ (hops op (by simp)).2
      rw [registry_run]
      exact hnames

/-- A clean uniform with a location has exactly the value that the program received last at this
location, in every state of a run that binds to one program only. Right after an upload every
uniform with a location has it. -/
theorem latest?_eq_value_of_run (c : Catalog) (before ops : List Operation)
    (hP : ∀ a b l, P a = some l → P b = some l → a = b)
    (hbefore : ∀ t ∈ (Registry.after c before).instances, t.kind.validate = .ok ())
    (hops : ∀ op ∈ ops, op.Brings c (fun k => k.validate = .ok ()) ∧
      ∀ locations, op = .bind locations → locations = P) (received : List Write) :
    let reached := run ⟨(Registry.after c before).bind P, received⟩ ops
    (∀ u ∈ reached.registry.declared, ∀ l, u.location = some l → u.dirty = false →
        latest? l reached.received = some u.value) ∧
      ∀ u ∈ (reached.step .upload).registry.declared, ∀ l, u.location = some l →
        latest? l (reached.step .upload).received = some u.value := by
  intro reached
  have hreached := agrees_run hP hbefore hops received
  have huploaded : (reached.step .upload).Agrees P := by
    refine hreached.step hP ?_ nofun
    rw [registry_run]
    exact nodup_names_run hbefore fun op hop => (hops op hop).1
  refine ⟨hreached.current, ?_⟩
  intro u hu l hl
  obtain ⟨t, ht, hmem⟩ := Registry.mem_declared_iff.mp hu
  rw [registry_step] at ht
  have hclean := List.any_eq_false.mp (Registry.isDirty_upload _ t ht) u hmem
  exact huploaded.current u hu l hl (by simpa using hclean)

/-- Only the scale of a noise has a location here. It is set between two uploads. -/
theorem latest?_eq_value_noise :
    let P : Locations := fun name => if name = "tex0_scale" then some ⟨3⟩ else none
    let reached := run ⟨(Registry.after .builtin [.texture "noise" .empty]).bind P, []⟩
      [.upload, .set 0 "scale" (.int 7), .markDirty 1, .upload]
    reached.received.length = 2 ∧ ∃ u ∈ reached.registry.declared, u.location = some ⟨3⟩ ∧
      latest? ⟨3⟩ reached.received = some u.value := by
  intro P reached
  have hvalid : Catalog.builtin.Valid := Catalog.Reachable.empty.extendBuiltin.valid
  have hagree := latest?_eq_value_of_run (P := P) .builtin [.texture "noise" .empty]
    [.upload, .set 0 "scale" (.int 7), .markDirty 1, .upload]
    (by
      intro a b l ha hb
      simp only [P, Option.ite_none_right_eq_some] at ha hb
      rw [ha.1, hb.1])
    (Registry.kind_after (P := fun k => k.validate = .ok ()) (by
      intro op hop t ht
      rw [List.mem_singleton.mp hop] at ht
      exact hvalid _ (Operation.brings_texture _ _ _ t ht)))
    (by simp [Operation.Brings, Operation.newcomer?]) []
  have hscale : ∃ u ∈ reached.registry.declared, u.location = some ⟨3⟩ ∧ u.dirty = false := by
    decide
  obtain ⟨u, hu, hl, hclean⟩ := hscale
  exact ⟨by decide, u, hu, hl, hagree.1 u hu _ hl hclean⟩

end Run

end Link

end Texture

end SphereTrace
