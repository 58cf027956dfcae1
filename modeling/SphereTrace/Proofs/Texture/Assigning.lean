import SphereTrace.Proofs.Texture.Overriding
import SphereTrace.Proofs.Texture.Run
import SphereTrace.Proofs.Uniform.Inputs

/-! # Assignments to registered instances

An assignment is refused for a name that the kind does not have and for a vector that does not fit,
and for nothing else. A refused one leaves no trace; one that is taken reaches a single uniform, so
assignments to different parameters can be exchanged.
-/

namespace SphereTrace.Texture

open Glsl (Value)

namespace Kind

variable {k : Kind} {name other : String} {place : Nat}

/-- Different names stand in different places, also where a kind has a name twice. -/
theorem place?_ne_of_ne (hne : name ≠ other) (hplace : k.place? name = some place) :
    k.place? other ≠ some place := by
  intro hother
  obtain ⟨_, hname, _⟩ := List.findIdx?_eq_some_iff_getElem.mp hplace
  obtain ⟨_, hsame, _⟩ := List.findIdx?_eq_some_iff_getElem.mp hother
  rw [beq_iff_eq] at hname hsame
  exact hne (hname.symm.trans hsame)

end Kind

namespace Instance

variable {t t' : Instance} {name other : String} {input input' : Input}

theorem set_of_unknown (h : t.kind.parameter? name = none) :
    t.set name input = .error (.unknownParameter t.kind.name name) := by
  simp only [set, Kind.place?_of_parameter?_none h]

/-- An assignment to a parameter of the kind depends on its type alone. -/
theorem WellFormed.exists_set_eq (ht : t.WellFormed) {p : Parameter}
    (hp : t.kind.parameter? name = some p) (input : Input) :
    ∃ place u, t.kind.place? name = some place ∧ t.kind.parameters[place]? = some p ∧
      t.uniforms[place]? = some u ∧ u.dataType = p.type ∧
      t.set name input =
        match input.resolve? p.type with
        | none => .error (.typeMismatch name p.type input.dataType)
        | some value =>
          .ok { t with uniforms := t.uniforms.set place { u with value, dirty := true } } := by
  obtain ⟨_, place, hplace, hget⟩ := Kind.exists_place? hp
  have hlt : place < t.uniforms.length := by
    rw [ht.length_uniforms]
    exact (List.getElem?_eq_some_iff.mp hget).1
  have hu : t.uniforms[place]? = some t.uniforms[place] := List.getElem?_eq_getElem hlt
  have htype := ht.dataType_eq (List.mem_of_getElem? (getElem?_parameters.mpr ⟨hget, hu⟩))
  refine ⟨place, _, hplace, hget, hu, htype, ?_⟩
  cases hvalue : input.resolve? p.type <;>
    simp only [set, hplace, hu, Uniform.assign?, htype, hvalue, Option.map_none, Option.map_some]

/-- The two reasons for an assignment to be refused, with what the error tells. -/
theorem WellFormed.set_eq_error_iff (ht : t.WellFormed) {e : Error} :
    t.set name input = .error e ↔
      ((∀ p ∈ t.kind.parameters, p.name ≠ name) ∧ e = .unknownParameter t.kind.name name) ∨
      ∃ p, t.kind.parameter? name = some p ∧ input.Misfits p.type ∧
        e = .typeMismatch p.name p.type input.dataType := by
  rw [← Kind.parameter?_eq_none_iff]
  cases hp : t.kind.parameter? name with
  | none => simp [set_of_unknown hp, eq_comm]
  | some p =>
      obtain ⟨hname, _⟩ := Kind.exists_place? hp
      obtain ⟨place, u, _, _, _, _, hset⟩ := ht.exists_set_eq hp input
      rw [hset]
      cases hvalue : input.resolve? p.type with
      | none => simp [← Input.resolve?_eq_none_iff, hvalue, hname, eq_comm]
      | some value => simp [← Input.resolve?_eq_none_iff, hvalue]

theorem get?_eq_some_iff {value : Value} : t.get? name = some value ↔
    ∃ place u, t.kind.place? name = some place ∧ t.uniforms[place]? = some u ∧ u.value = value := by
  simp [get?, uniform?, Option.bind_eq_some_iff]

/-- What an assignment that is taken does: the uniform of the parameter has the value that the input
resolves to and is dirty, and all else is as it was. -/
theorem WellFormed.exists_of_set_eq_ok (ht : t.WellFormed) (h : t.set name input = .ok t') :
    ∃ place p u value, t.kind.place? name = some place ∧ t.kind.parameters[place]? = some p ∧
      t.uniforms[place]? = some u ∧
      t' = { t with uniforms := t.uniforms.set place { u with value, dirty := true } } ∧
      t'.get? name = some value ∧ input.resolve? p.type = some value := by
  cases hp : t.kind.parameter? name with
  | none => rw [set_of_unknown hp] at h; cases h
  | some p =>
      obtain ⟨place, u, hplace, hget, hu, _, hset⟩ := ht.exists_set_eq hp input
      rw [hset] at h
      cases hvalue : input.resolve? p.type with
      | none => rw [hvalue] at h; cases h
      | some value =>
          rw [hvalue] at h
          obtain rfl := Except.ok.inj h
          have hlt := (List.getElem?_eq_some_iff.mp hu).1
          refine ⟨place, p, u, value, hplace, hget, hu, rfl, get?_eq_some_iff.mpr ?_, hvalue⟩
          exact ⟨place, _, hplace, List.getElem?_set_self hlt, rfl⟩

/-- What is read from a parameter can be assigned to it, and is read from it again. -/
theorem exists_set_ofValue {value : Value} (h : t.get? name = some value) :
    ∃ t', t.set name (.ofValue value) = .ok t' ∧ t'.get? name = some value := by
  obtain ⟨place, u, hplace, hu, rfl⟩ := get?_eq_some_iff.mp h
  have hresolve : (Input.ofValue u.value).resolve? u.dataType = some u.value :=
    Input.resolve?_ofValue u.value
  have hlt := (List.getElem?_eq_some_iff.mp hu).1
  refine ⟨{ t with uniforms := t.uniforms.set place { u with dirty := true } }, ?_, ?_⟩
  · simp only [set, hplace, hu, Uniform.assign?, hresolve, Option.map_some]
  · exact get?_eq_some_iff.mpr ⟨place, _, hplace, List.getElem?_set_self hlt, rfl⟩

/-- After an assignment to another parameter an assignment is refused as it was before. -/
theorem set_of_set_error (hne : name ≠ other) (h : t.set name input = .ok t') {e : Error}
    (hother : t.set other input' = .error e) : t'.set other input' = .error e := by
  obtain ⟨place, u, value, hplace, _, _, rfl⟩ := set_eq_ok h
  rw [← hother]
  unfold set
  cases hspot : t.kind.place? other with
  | none => simp only
  | some spot =>
      have hspots : place ≠ spot := fun heq => Kind.place?_ne_of_ne hne hplace (heq ▸ hspot)
      cases hold : t.uniforms[spot]? with
      | none => simp only [List.getElem?_set_ne hspots, hold]
      | some old =>
          cases hvalue : old.assign? input' with
          | none => simp only [List.getElem?_set_ne hspots, hold, hvalue]
          | some changed => simp [set, hspot, hold, hvalue] at hother

/-- Assignments to two parameters that are both taken can be made in either order. -/
theorem exists_set_comm {t'' : Instance} (hne : name ≠ other) (h : t.set name input = .ok t')
    (hother : t.set other input' = .ok t'') :
    ∃ last, t'.set other input' = .ok last ∧ t''.set name input = .ok last := by
  obtain ⟨place, u, value, hplace, hu, hvalue, rfl⟩ := set_eq_ok h
  obtain ⟨spot, old, value', hspot, hold, hvalue', rfl⟩ := set_eq_ok hother
  have hspots : place ≠ spot := fun heq => Kind.place?_ne_of_ne hne hplace (heq ▸ hspot)
  refine ⟨{ t with
    uniforms := (t.uniforms.set place { u with value, dirty := true }).set spot
      { old with value := value', dirty := true } }, ?_, ?_⟩
  · simp only [set, hspot, List.getElem?_set_ne hspots, hold, Uniform.assign?, hvalue',
      Option.map_some]
  · simp only [set, hplace, List.getElem?_set_ne hspots.symm, hu, Uniform.assign?, hvalue,
      Option.map_some]
    rw [List.set_comm _ _ hspots]

end Instance

namespace Operation

variable {target target' : Nat} {name name' : String}

/-- Assignments to different parameters, or to different instances, can be exchanged, whether they
are taken or refused. -/
theorem act_set_comm (hne : (target, name) ≠ (target', name')) (input input' : Input)
    (number : Nat) (t : Instance) :
    (set target' name' input').act number ((set target name input).act number t) =
      (set target name input).act number ((set target' name' input').act number t) := by
  simp only [act]
  by_cases htarget : target = number
  · by_cases htarget' : target' = number
    · have hname : name ≠ name' := fun heq => hne (by rw [htarget, htarget', heq])
      simp only [if_pos htarget, if_pos htarget']
      cases hset : t.set name input with
      | error e =>
          cases hset' : t.set name' input' with
          | error e' => simp [hset, hset', Except.toOption]
          | ok t'' =>
              simp [hset', Instance.set_of_set_error hname.symm hset' hset, Except.toOption]
      | ok t' =>
          cases hset' : t.set name' input' with
          | error e' =>
              simp [hset, Instance.set_of_set_error hname hset hset', Except.toOption]
          | ok t'' =>
              obtain ⟨last, hlast, hlast'⟩ := Instance.exists_set_comm hname hset hset'
              simp [hlast, hlast', Except.toOption]
    · simp only [if_neg htarget']
  · simp only [if_neg htarget]

end Operation

namespace Registry

variable {r : Registry} {number : Nat} {name : String} {input : Input} {t t' : Instance}

/-- What an assignment to a registered instance answers with; nothing where there is no instance
under the number. -/
def answer? (r : Registry) (number : Nat) (name : String) (input : Input) :
    Option (Except Error Unit) :=
  (r.get? number).map fun t => (t.set name input).map fun _ => ()

theorem get?_step_set (r : Registry) (number : Nat) (name : String) (input : Input)
    (other : Nat) :
    (r.step (.set number name input)).get? other =
      (r.get? other).map ((Operation.set number name input).act other) := by
  have hinstances := instances_step r (.set number name input)
  rw [get?, hinstances]
  change (r.instances.mapIdx _ ++ [])[other]? = _
  rw [List.append_nil, List.getElem?_mapIdx]
  rfl

theorem eq_of_get?_eq {r r' : Registry} (hcatalog : r.catalog = r'.catalog)
    (h : ∀ number, r.get? number = r'.get? number) : r = r' := by
  obtain ⟨catalog, instances⟩ := r
  obtain ⟨catalog', instances'⟩ := r'
  obtain rfl : catalog = catalog' := hcatalog
  obtain rfl : instances = instances' := List.ext_getElem? h
  rfl

theorem step_set_of_error {e : Error} (ht : r.get? number = some t)
    (h : t.set name input = .error e) : r.step (.set number name input) = r := by
  simp only [step, attempt, ht, h]

theorem get?_step_set_of_ok (ht : r.get? number = some t) (h : t.set name input = .ok t') :
    (r.step (.set number name input)).get? number = some t' ∧
      ∀ other, other ≠ number →
        (r.step (.set number name input)).get? other = r.get? other := by
  constructor
  · rw [get?_step_set, ht]
    simp [Operation.act, h, Except.toOption]
  · intro other hother
    rw [get?_step_set]
    cases r.get? other with
    | none => rfl
    | some old => simp [Operation.act, hother.symm]

section Exchange

variable {number' : Nat} {name' : String}

theorem step_set_comm (hne : (number, name) ≠ (number', name')) (r : Registry)
    (input input' : Input) :
    (r.step (.set number name input)).step (.set number' name' input') =
      (r.step (.set number' name' input')).step (.set number name input) := by
  apply eq_of_get?_eq
  · simp only [catalog_step]
  · intro other
    simp only [get?_step_set, Option.map_map]
    congr 1
    funext t
    exact Operation.act_set_comm hne input input' other t

/-- An assignment answers as it would have before an assignment to another parameter. -/
theorem answer?_step_set (hne : (number, name) ≠ (number', name')) (r : Registry)
    (input input' : Input) :
    (r.step (.set number name input)).answer? number' name' input' =
      r.answer? number' name' input' := by
  rw [answer?, answer?, get?_step_set, Option.map_map]
  congr 1
  funext t
  rcases Operation.act_set number number' name input t with ⟨rfl, hset⟩ | ⟨hsame, _⟩
  · have hname : name ≠ name' := fun heq => hne (by rw [heq])
    rw [Function.comp_apply]
    cases hother : t.set name' input' with
    | error e => rw [Instance.set_of_set_error hname hset hother]
    | ok t'' =>
        obtain ⟨last, hlast, _⟩ := Instance.exists_set_comm hname hset hother
        rw [hlast]
        rfl
  · rw [Function.comp_apply, hsame]

end Exchange

/-- After any run, an assignment to a registered instance is refused if its kind has no parameter of
the name, or if a vector has not as many components as the parameter; it is taken in all other
cases. A refused one leaves the registry as it is. One that is taken gives a single uniform the
value that the input resolves to and marks it, and changes nothing else. What is read from a
parameter can always be put back, and assignments to different parameters, of one instance or of
two, can be exchanged with the same answers. -/
theorem set_after (c : Catalog) (ops : List Operation) :
    let r := after c ops
    (∀ number t, r.get? number = some t → ∀ name,
      (∀ input,
        let changed := r.step (.set number name input)
        (∀ e, t.set name input = .error e ↔
          ((∀ p ∈ t.kind.parameters, p.name ≠ name) ∧
              e = .unknownParameter t.kind.name name) ∨
            ∃ p, t.kind.parameter? name = some p ∧ input.Misfits p.type ∧
              e = .typeMismatch p.name p.type input.dataType) ∧
        (∀ e, t.set name input = .error e → changed = r) ∧
        ∀ t', t.set name input = .ok t' →
          changed.catalog = r.catalog ∧ changed.get? number = some t' ∧
            (∀ other, other ≠ number → changed.get? other = r.get? other) ∧
            ∃ place p u value, t.kind.place? name = some place ∧
              t.kind.parameters[place]? = some p ∧ t.uniforms[place]? = some u ∧
              t' = { t with
                uniforms := t.uniforms.set place { u with value := value, dirty := true } } ∧
              t'.get? name = some value ∧ input.resolve? p.type = some value ∧
              value.dataType = p.type ∧ input.Fills value) ∧
      ∀ value, t.get? name = some value →
        ∃ t', t.set name (.ofValue value) = .ok t' ∧ t'.get? name = some value) ∧
    ∀ number name input number' name' input', (number, name) ≠ (number', name') →
      (r.step (.set number name input)).step (.set number' name' input') =
          (r.step (.set number' name' input')).step (.set number name input) ∧
        (r.step (.set number name input)).answer? number' name' input' =
          r.answer? number' name' input' ∧
        (r.step (.set number' name' input')).answer? number name input =
          r.answer? number name input := by
  intro r
  refine ⟨?_, ?_⟩
  · intro number t ht name
    have hformed := (wellFormed_after c ops number t ht).1
    refine ⟨?_, fun value hvalue => Instance.exists_set_ofValue hvalue⟩
    intro input changed
    refine ⟨fun e => hformed.set_eq_error_iff, fun e he => step_set_of_error ht he, ?_⟩
    intro t' hset
    obtain ⟨hself, hothers⟩ := get?_step_set_of_ok ht hset
    obtain ⟨place, p, u, value, hplace, hp, hu, ht', hvalue, hresolve⟩ :=
      hformed.exists_of_set_eq_ok hset
    exact ⟨catalog_step _ _, hself, hothers, place, p, u, value, hplace, hp, hu, ht', hvalue,
      hresolve, Input.dataType_of_resolve? hresolve, Input.fills_of_resolve? hresolve⟩
  · intro number name input number' name' input' hne
    exact ⟨step_set_comm hne r input input', answer?_step_set hne r input input',
      answer?_step_set hne.symm r input' input⟩

/-- A colour of checkers is set to one number, and not to a vector of two. -/
theorem set_after_checkers :
    let r := after .builtin [.texture "checkers" .empty, .texture "noise" .empty]
    ((r.step (.set 0 "color1" (.int 3))).get? 0).bind (fun t => t.get? "color1") =
        some (.vec3 ⟨3, 3, 3⟩) ∧
      (r.step (.set 0 "color1" (.int 3))).get? 1 = r.get? 1 ∧
      r.step (.set 0 "color1" (.vec2 ⟨1, 2⟩)) = r ∧
      (r.step (.set 0 "color1" (.int 3))).answer? 0 "size" (.scalar 4) = some (.ok ()) := by
  intro r
  obtain ⟨hsets, hexchange⟩ :=
    set_after .builtin [.texture "checkers" .empty, .texture "noise" .empty]
  have hmade : (r.get? 0).map (fun t => ((t.set "color1" (.int 3)).isOk,
      (t.set "color1" (.vec2 ⟨1, 2⟩)).isOk)) = some (true, false) := by
    decide +kernel
  obtain ⟨t, ht, hanswers⟩ := Option.map_eq_some_iff.mp hmade
  obtain ⟨htaken, hrefused⟩ := Prod.mk.inj hanswers
  have hfills := ((hsets 0 t ht "color1").1 (.int 3)).2.2
  have hkeeps := ((hsets 0 t ht "color1").1 (.vec2 ⟨1, 2⟩)).2.1
  refine ⟨by decide +kernel, ?_, ?_, ?_⟩
  · cases hset : t.set "color1" (.int 3) with
    | error e => rw [hset] at htaken; cases htaken
    | ok t' => exact (hfills t' hset).2.2.1 1 (by decide)
  · cases hset : t.set "color1" (.vec2 ⟨1, 2⟩) with
    | error e => exact hkeeps e hset
    | ok t' => rw [hset] at hrefused; cases hrefused
  · rw [(hexchange 0 "color1" (.int 3) 0 "size" (.scalar 4) (by decide)).2.1]
    decide +kernel

end Registry

end SphereTrace.Texture
