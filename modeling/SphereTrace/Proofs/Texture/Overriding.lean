import Mathlib.Data.List.Nodup
import Mathlib.Data.List.Perm.Basic
import SphereTrace.Proofs.Texture.Making
import SphereTrace.Proofs.Texture.Validity

/-! # Overrides as assignments

To make an instance with overrides is to make it without and to assign the overrides one by one, in
any order, going on after each that is refused. Both give the same instance, and the warnings of the
one are the errors of the other.
-/

namespace SphereTrace.Texture

open Glsl (Value)

namespace Overrides

variable {o o' : Overrides}

theorem get?_eq_some_iff {name : String} {input : Input} :
    o.get? name = some input ↔ (name, input) ∈ o.entries := by
  have hdistinct := o.distinct
  unfold get?
  generalize o.entries = entries at hdistinct
  induction entries with
  | nil => simp
  | cons entry rest ih =>
      obtain ⟨first, value⟩ := entry
      obtain ⟨hfirst, hrest⟩ := List.nodup_cons.mp hdistinct
      by_cases hname : name = first
      · subst hname
        have hnone : (name, input) ∉ rest := fun hmem =>
          hfirst (List.mem_map.mpr ⟨(name, input), hmem, rfl⟩)
        simp [hnone, eq_comm]
      · have hne : (name == first) = false := by simpa using hname
        simp [List.lookup_cons, hne, hname, ih hrest]

/-- What is overridden does not depend on the order. -/
theorem get?_of_perm (h : o.entries.Perm o'.entries) (name : String) :
    o.get? name = o'.get? name := by
  ext input
  rw [get?_eq_some_iff, get?_eq_some_iff, h.mem_iff]

end Overrides

namespace Kind

variable {k : Kind} {name : String} {p : Parameter}

theorem parameter?_eq_none_iff : k.parameter? name = none ↔ ∀ p ∈ k.parameters, p.name ≠ name := by
  simp [parameter?]

theorem place?_of_parameter?_none (h : k.parameter? name = none) : k.place? name = none := by
  rw [place?, List.findIdx?_eq_none_iff]
  simpa using parameter?_eq_none_iff.mp h

theorem exists_place? (h : k.parameter? name = some p) :
    p.name = name ∧ ∃ place, k.place? name = some place ∧ k.parameters[place]? = some p := by
  obtain ⟨hname, place, hlt, hp, hfirst⟩ := List.find?_eq_some_iff_getElem.mp h
  refine ⟨by simpa using hname, place, ?_, ?_⟩
  · rw [place?, List.findIdx?_eq_some_iff_getElem]
    subst hp
    exact ⟨hlt, hname, fun j hj => by simpa using hfirst j hj⟩
  · rw [List.getElem?_eq_getElem hlt, hp]

theorem parameter?_eq_some_iff (hnames : (k.parameters.map Parameter.name).Nodup) :
    k.parameter? name = some p ↔ p ∈ k.parameters ∧ p.name = name := by
  constructor
  · intro h
    obtain ⟨hname, place, _, hget⟩ := exists_place? h
    exact ⟨List.mem_of_getElem? hget, hname⟩
  · rintro ⟨hp, rfl⟩
    cases hfind : k.parameter? p.name with
    | none => exact absurd rfl (parameter?_eq_none_iff.mp hfind p hp)
    | some q =>
        obtain ⟨hname, place, _, hget⟩ := exists_place? hfind
        rw [List.inj_on_of_nodup_map hnames (List.mem_of_getElem? hget) hp hname]

end Kind

namespace Instance

/-- Assigns inputs one by one, and collects the errors of those that are refused. -/
def assignAll (t : Instance) : List (String × Input) → Instance × List Error
  | [] => (t, [])
  | (name, input) :: rest =>
    match t.set name input with
    | .ok changed => changed.assignAll rest
    | .error e =>
      let (last, errors) := t.assignAll rest
      (last, e :: errors)

/-- An instance as it is made, with a value for each parameter. -/
def seeded (kind : Kind) (variant : Variant) (value : Parameter → Value) : Instance where
  kind := kind
  variant := variant
  uniforms := kind.parameters.map fun p => { name := unboundName kind p, value := value p }

theorem ofKind_eq {kind : Kind} {variant : Variant} (h : kind.defaultVariant? = some variant)
    (overrides : Overrides) :
    ofKind kind overrides =
      .ok (seeded kind variant (seed overrides), overrideWarnings kind overrides) := by
  simp only [ofKind, h, seeded]

/-- Where keys are distinct, a change of the value under one key is a change in one place. -/
theorem map_set_of_nodup {α β γ : Type} {key : α → γ} {xs : List α} (hkeys : (xs.map key).Nodup)
    {place : Nat} {x : α} (hx : xs[place]? = some x) {f g : α → β}
    (hfg : ∀ y ∈ xs, key y ≠ key x → g y = f y) : (xs.map f).set place (g x) = xs.map g := by
  obtain ⟨hlt, hplace⟩ := List.getElem?_eq_some_iff.mp hx
  apply List.ext_getElem
  · simp
  · intro i hset hmap
    have hi : i < xs.length := by simpa using hset
    rw [List.getElem_set, List.getElem_map, List.getElem_map]
    split
    next hsame => subst hsame; rw [hplace]
    next hother =>
      refine (hfg _ (List.getElem_mem hi) ?_).symm
      intro hkey
      have hlt' : place < (xs.map key).length := by simpa using hlt
      have hi' : i < (xs.map key).length := by simpa using hi
      have hsame : (xs.map key)[place] = (xs.map key)[i] := by simp [hplace, hkey]
      exact hother (hkeys.getElem_inj_iff.mp hsame)

theorem seeded_congr {kind : Kind} {variant : Variant} {value other : Parameter → Value}
    (h : ∀ p ∈ kind.parameters, value p = other p) :
    seeded kind variant value = seeded kind variant other := by
  unfold seeded
  congr 1
  apply List.map_congr_left
  intro p hp
  rw [h p hp]

/-- Why an input is refused: there is no such parameter, or it does not fit. -/
def refusal? (kind : Kind) (name : String) (input : Input) : Option Error :=
  match kind.parameter? name with
  | none => some (.unknownParameter kind.name name)
  | some p =>
    if (input.resolve? p.type).isSome then none
    else some (.typeMismatch name p.type input.dataType)

/-- The value of a parameter after assignments by name, from the value before them. -/
def assigned (entries : List (String × Input)) (value : Parameter → Value) (p : Parameter) :
    Value :=
  ((entries.lookup p.name).bind fun input => input.resolve? p.type).getD (value p)

section Assigned

variable {kind : Kind} {variant : Variant} {value : Parameter → Value} {p : Parameter}
  {name : String} {input : Input} {e : Error} {rest : List (String × Input)}

theorem assigned_self : assigned [(p.name, input)] value p =
    (input.resolve? p.type).getD (value p) := by
  simp [assigned]

theorem assigned_of_ne (h : p.name ≠ name) : assigned [(name, input)] value p = value p := by
  have hne : (p.name == name) = false := by simpa using h
  simp [assigned, List.lookup_cons, hne]

theorem assigned_congr {other : Parameter → Value} (entries : List (String × Input))
    (h : value p = other p) : assigned entries value p = assigned entries other p := by
  rw [assigned, assigned, h]

/-- The first of several assignments is made first. -/
theorem assigned_cons (h : name ∉ rest.map Prod.fst) :
    assigned ((name, input) :: rest) value p = assigned rest (assigned [(name, input)] value) p := by
  by_cases hname : p.name = name
  · subst hname
    have hnone : rest.lookup p.name = none := by
      rw [List.lookup_eq_none_iff]
      intro entry hentry
      simp only [bne_iff_ne]
      intro heq
      exact h (heq ▸ List.mem_map_of_mem hentry)
    simp [assigned, hnone]
  · have hne : (p.name == name) = false := by simpa using hname
    simp [assigned, List.lookup_cons, hne]

theorem dataType_assigned (entries : List (String × Input)) (h : (value p).dataType = p.type) :
    (assigned entries value p).dataType = p.type := by
  unfold assigned
  cases hvalue : (entries.lookup p.name).bind fun input => input.resolve? p.type with
  | none => exact h
  | some v =>
      obtain ⟨input, _, hresolve⟩ := Option.bind_eq_some_iff.mp hvalue
      exact Input.dataType_of_resolve? hresolve

variable (hnames : (kind.parameters.map Parameter.name).Nodup)

include hnames in
/-- An input that is refused leaves all parameters as they are. -/
theorem assigned_of_refusal (h : refusal? kind name input = some e) (hp : p ∈ kind.parameters) :
    assigned [(name, input)] value p = value p := by
  by_cases hname : p.name = name
  · subst hname
    have hfind := (Kind.parameter?_eq_some_iff hnames).mpr ⟨hp, rfl⟩
    rw [assigned_self]
    cases hvalue : input.resolve? p.type with
    | none => rfl
    | some v => simp [refusal?, hfind, hvalue] at h
  · exact assigned_of_ne hname

theorem set_seeded_of_refusal (htypes : ∀ p ∈ kind.parameters, (value p).dataType = p.type)
    (h : refusal? kind name input = some e) :
    (seeded kind variant value).set name input = .error e := by
  unfold refusal? at h
  split at h
  next hnone =>
    obtain rfl := Option.some.inj h
    simp only [set, seeded, Kind.place?_of_parameter?_none hnone]
  next p hp =>
    obtain ⟨rfl, place, hplace, hget⟩ := Kind.exists_place? hp
    have htype := htypes p (List.mem_of_getElem? hget)
    cases hvalue : input.resolve? p.type with
    | none =>
        obtain rfl : .typeMismatch p.name p.type input.dataType = e := by simpa [hvalue] using h
        simp [set, seeded, hplace, hget, Uniform.assign?, Uniform.dataType, htype, hvalue]
    | some v => simp [hvalue] at h

include hnames in
/-- An input that is not refused becomes the value of its parameter. -/
theorem set_seeded (htypes : ∀ p ∈ kind.parameters, (value p).dataType = p.type)
    (h : refusal? kind name input = none) :
    (seeded kind variant value).set name input =
      .ok (seeded kind variant (assigned [(name, input)] value)) := by
  unfold refusal? at h
  split at h
  next => cases h
  next p hp =>
    obtain ⟨rfl, place, hplace, hget⟩ := Kind.exists_place? hp
    have htype := htypes p (List.mem_of_getElem? hget)
    cases hvalue : input.resolve? p.type with
    | none => simp [hvalue] at h
    | some v =>
        have hset := map_set_of_nodup hnames hget
          (f := fun q => ({ name := unboundName kind q, value := value q } : Uniform))
          (g := fun q => { name := unboundName kind q, value := assigned [(p.name, input)] value q })
          (fun q _ hname => by simp only [assigned_of_ne hname])
        simp only [assigned_self, hvalue, Option.getD_some] at hset
        simp [set, seeded, hplace, hget, Uniform.assign?, Uniform.dataType, htype, hvalue, hset]

include hnames in
/-- Assignments under distinct names give each parameter its input if that fits, and the refused
ones can be told from the kind alone. -/
theorem assignAll_seeded (variant : Variant) {entries : List (String × Input)}
    (htypes : ∀ p ∈ kind.parameters, (value p).dataType = p.type)
    (hdistinct : (entries.map Prod.fst).Nodup) :
    (seeded kind variant value).assignAll entries =
      (seeded kind variant (assigned entries value),
        entries.filterMap fun entry => refusal? kind entry.1 entry.2) := by
  -- Each assignment changes the values that the next ones start from.
  induction entries generalizing value with
  | nil => rfl
  | cons entry rest ih =>
      obtain ⟨name, input⟩ := entry
      obtain ⟨hfirst, hrest⟩ := List.nodup_cons.mp hdistinct
      have hcons : seeded kind variant (assigned ((name, input) :: rest) value) =
          seeded kind variant (assigned rest (assigned [(name, input)] value)) :=
        seeded_congr fun p _ => assigned_cons hfirst
      cases hrefusal : refusal? kind name input with
      | some e =>
          have hsame : seeded kind variant (assigned rest (assigned [(name, input)] value)) =
              seeded kind variant (assigned rest value) := by
            apply seeded_congr
            intro p hp
            exact assigned_congr rest (assigned_of_refusal hnames hrefusal hp)
          rw [assignAll, set_seeded_of_refusal htypes hrefusal]
          simp only [ih htypes hrest, List.filterMap_cons, hrefusal, hcons, hsame]
      | none =>
          rw [assignAll, set_seeded hnames htypes hrefusal]
          simp only [ih (fun p hp => dataType_assigned _ (htypes p hp)) hrest,
            List.filterMap_cons, hrefusal, hcons]

end Assigned

/-- The warning about an override for a name, if there is one. -/
def overrideWarning? (kind : Kind) (overrides : Overrides) (name : String) : Option Warning :=
  match kind.parameter? name with
  | none => some (.unknownOverride name kind.name)
  | some p => seedWarning? kind overrides p

section Warnings

variable {kind : Kind} {overrides : Overrides}

/-- The parameters with overrides, found by name, are those with overrides in the order of the
kind. -/
theorem perm_filterMap_parameter? (hnames : (kind.parameters.map Parameter.name).Nodup)
    (overrides : Overrides) :
    (overrides.names.filterMap kind.parameter?).Perm
      (kind.parameters.filter fun p => p.name ∈ overrides.names) := by
  have hfound : (overrides.names.filterMap kind.parameter?).Nodup := by
    apply List.Nodup.filterMap _ overrides.distinct
    intro name other p hname hother
    rw [← ((Kind.parameter?_eq_some_iff hnames).mp hname).2,
      ((Kind.parameter?_eq_some_iff hnames).mp hother).2]
  rw [List.perm_ext_iff_of_nodup hfound ((List.Nodup.of_map _ hnames).filter _)]
  intro p
  simp only [List.mem_filterMap, List.mem_filter, decide_eq_true_eq]
  constructor
  · rintro ⟨name, hname, hp⟩
    obtain ⟨hmem, rfl⟩ := (Kind.parameter?_eq_some_iff hnames).mp hp
    exact ⟨hmem, hname⟩
  · rintro ⟨hmem, hname⟩
    exact ⟨p.name, hname, (Kind.parameter?_eq_some_iff hnames).mpr ⟨hmem, rfl⟩⟩

theorem seedWarning?_of_notMem {p : Parameter} (h : p.name ∉ overrides.names) :
    seedWarning? kind overrides p = none := by
  have hnone : overrides.get? p.name = none := by
    rw [Option.eq_none_iff_forall_ne_some]
    intro input hinput
    exact h (List.mem_map_of_mem (Overrides.get?_eq_some_iff.mp hinput))
  simp only [seedWarning?, hnone]

/-- The warnings about overrides, name by name, are those that a new instance comes with. -/
theorem perm_overrideWarnings (hnames : (kind.parameters.map Parameter.name).Nodup)
    (overrides : Overrides) :
    (overrides.names.filterMap (overrideWarning? kind overrides)).Perm
      (overrideWarnings kind overrides) := by
  -- A new instance comes with those about unknown names first, then with those about parameters in
  -- the order of the kind; each of the two is a part of the names.
  have hunknown : (overrides.names.filter fun name => (kind.parameter? name).isNone).filterMap
      (overrideWarning? kind overrides) =
        (overrides.names.filter fun name => (kind.parameter? name).isNone).map
          fun name => .unknownOverride name kind.name := by
    rw [← List.filterMap_eq_map]
    apply List.filterMap_congr
    intro name hname
    have hnone := Option.isNone_iff_eq_none.mp (List.mem_filter.mp hname).2
    simp only [overrideWarning?, hnone]
    rfl
  have hknown : (overrides.names.filter fun name => !(kind.parameter? name).isNone).filterMap
      (overrideWarning? kind overrides) =
        (overrides.names.filterMap kind.parameter?).filterMap (seedWarning? kind overrides) := by
    rw [List.filterMap_filter, List.filterMap_filterMap]
    apply List.filterMap_congr
    intro name _
    cases hp : kind.parameter? name <;> simp [overrideWarning?, hp]
  have hseeds : (kind.parameters.filter fun p => p.name ∈ overrides.names).filterMap
      (seedWarning? kind overrides) = kind.parameters.filterMap (seedWarning? kind overrides) := by
    rw [List.filterMap_filter]
    apply List.filterMap_congr
    intro p _
    split
    next => rfl
    next hp => rw [seedWarning?_of_notMem (by simpa using hp)]
  rw [overrideWarnings, ← hunknown, ← hseeds]
  refine ((List.filter_append_perm (fun name => (kind.parameter? name).isNone)
    overrides.names).symm.filterMap _).trans ?_
  rw [List.filterMap_append, hknown]
  exact ((perm_filterMap_parameter? hnames overrides).filterMap _).append_left _

theorem overrideWarnings_empty (kind : Kind) : overrideWarnings kind .empty = [] := by
  simp [overrideWarnings, Overrides.empty, Overrides.names, seedWarning?, Overrides.get?]

/-- A refused assignment to an instance of a kind, as a warning. -/
def refusalWarning (kind : Kind) : Error → Warning
  | .unknownParameter texture parameter => .unknownOverride parameter texture
  | .typeMismatch parameter expected got => .unfitOverride kind.name parameter got expected
  | e => .skippedTexture e

/-- What is refused when overrides are assigned is what the warnings are about. -/
theorem map_refusalWarning (overrides : Overrides) :
    (overrides.entries.filterMap fun entry => refusal? kind entry.1 entry.2).map
        (refusalWarning kind) =
      overrides.names.filterMap (overrideWarning? kind overrides) := by
  rw [Overrides.names, List.map_filterMap, List.filterMap_map]
  apply List.filterMap_congr
  rintro ⟨name, input⟩ hentry
  simp only [Function.comp_apply, refusal?, overrideWarning?]
  split
  next => rfl
  next p hp =>
    obtain ⟨rfl, _⟩ := Kind.exists_place? hp
    simp only [seedWarning?, Overrides.get?_eq_some_iff.mpr hentry]
    split <;> rfl

end Warnings

/-- A new instance with overrides is the one without, after the overrides have been assigned one by
one in any order and whether or not some are refused. There is one warning for each override that
is refused, which tells of its error, and there are no others. -/
theorem ofKind_eq_assignAll {kind : Kind} (hsources : kind.sources ≠ [])
    (hnames : (kind.parameters.map Parameter.name).Nodup) (overrides : Overrides) :
    ∃ t warnings plain, ofKind kind overrides = .ok (t, warnings) ∧
      ofKind kind .empty = .ok (plain, []) ∧
      ∀ entries : List (String × Input), entries.Perm overrides.entries →
        (plain.assignAll entries).1 = t ∧
          ((plain.assignAll entries).2.map (refusalWarning kind)).Perm warnings := by
  obtain ⟨variant, hvariant⟩ := Option.isSome_iff_exists.mp (Kind.isSome_defaultVariant? hsources)
  refine ⟨_, _, _, ofKind_eq hvariant overrides,
    overrideWarnings_empty kind ▸ ofKind_eq hvariant .empty, ?_⟩
  intro entries hperm
  have hdistinct : (entries.map Prod.fst).Nodup :=
    (hperm.map Prod.fst).nodup_iff.mpr overrides.distinct
  have htypes : ∀ p ∈ kind.parameters, (seed .empty p).dataType = p.type :=
    fun p _ => dataType_seed .empty p
  rw [assignAll_seeded hnames variant htypes hdistinct]
  constructor
  · apply seeded_congr
    intro p _
    have hlookup : entries.lookup p.name = overrides.get? p.name :=
      Overrides.get?_of_perm (o := ⟨entries, hdistinct⟩) hperm p.name
    rw [assigned, hlookup]
    rfl
  · refine List.Perm.trans ?_ (perm_overrideWarnings hnames overrides)
    rw [← map_refusalWarning]
    exact (hperm.filterMap _).map _

/-- Noise with an override that fits, one that does not, and one for no parameter. -/
theorem ofKind_eq_assignAll_noise :
    let overrides := Overrides.ofList
      [("scale", .int 4), ("time", .vec2 ⟨1, 2⟩), ("size", .scalar 5)]
    ∃ t warnings plain, ofKind Builtin.noise overrides = .ok (t, warnings) ∧
      ofKind Builtin.noise .empty = .ok (plain, []) ∧
      (plain.assignAll overrides.entries.reverse).1 = t ∧
      ((plain.assignAll overrides.entries.reverse).2.map (refusalWarning Builtin.noise)).Perm
        warnings ∧
      t.get? "scale" = some (.float 4) ∧ warnings.length = 2 := by
  intro overrides
  obtain ⟨t, warnings, plain, hnew, hplain, hassign⟩ :=
    @ofKind_eq_assignAll Builtin.noise (by decide) (by decide) overrides
  obtain ⟨hlast, hwarnings⟩ := hassign _ (List.reverse_perm _)
  have hmade : (ofKind Builtin.noise overrides).toOption.map
      (fun made => (made.1.get? "scale", made.2.length)) = some (some (.float 4), 2) := by
    decide +kernel
  rw [hnew] at hmade
  obtain ⟨hscale, hlength⟩ := Prod.mk.inj (Option.some.inj hmade)
  exact ⟨t, warnings, plain, hnew, hplain, hlast, hwarnings, hscale, hlength⟩

end Instance

end SphereTrace.Texture
