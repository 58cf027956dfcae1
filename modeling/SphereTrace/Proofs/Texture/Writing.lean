import SphereTrace.Proofs.Text.Lines
import SphereTrace.Proofs.Texture.UploadSet

/-! # What the source takes from a registry

Declarations and dispatch are written from a part of the registry only: of an instance its source
and its variant, of a uniform that stands in the program its name and its type, and of a constant its
value. What keeps this part keeps the source, whatever it does to values, flags and locations. A
constant reaches no further than the case of its instance.
-/

namespace SphereTrace

namespace Texture

namespace Instance

/-- What is written for a parameter: its declaration, unless it is a constant, and its argument. -/
def writtenParameter (entry : Parameter × Uniform) : Option String × Argument :=
  if entry.1.isUniform then (some entry.2.declaration, .uniform entry.2.name)
  else (none, .constant entry.2.literal)

/-- Of a uniform that stands in the program only the name and the type are written. -/
theorem writtenParameter_congr {p : Parameter} {u v : Uniform} (hname : v.name = u.name)
    (htype : v.dataType = u.dataType) (hvalue : p.isUniform = false → v.value = u.value) :
    writtenParameter (p, v) = writtenParameter (p, u) := by
  unfold writtenParameter
  split
  next => simp only [Uniform.declaration, hname, htype]
  next hp => simp only [Uniform.literal, hvalue (by simpa using hp)]

/-- Whether a parameter is declared does not hang on values at all. -/
theorem writtenParameter_fst_congr {p : Parameter} {u v : Uniform} (hname : v.name = u.name)
    (htype : v.dataType = u.dataType) :
    (writtenParameter (p, v)).1 = (writtenParameter (p, u)).1 := by
  unfold writtenParameter
  split
  next => simp only [Uniform.declaration, hname, htype]
  next => rfl

end Instance

/-- All that the source takes from an instance. -/
structure Written where
  source : Source
  coordinate : String
  parameters : List (Option String × Argument)

namespace Written

def declarations (w : Written) : List String :=
  w.parameters.filterMap Prod.fst

def call (w : Written) : Call where
  entry := w.source.entry
  coordinate := w.coordinate
  arguments := w.parameters.map Prod.snd

end Written

namespace Instance

variable {t t' : Instance}

def written (t : Instance) : Written where
  source := t.source
  coordinate := t.variant.coordinate
  parameters := t.parameters.map writtenParameter

theorem declarations_written (t : Instance) :
    t.written.declarations = t.declared.map Uniform.declaration := by
  simp only [Written.declarations, written, declared, List.filterMap_map, List.map_map]
  induction t.parameters with
  | nil => rfl
  | cons entry rest ih =>
      by_cases hp : entry.1.isUniform <;> simp_all [writtenParameter]

theorem call_written (t : Instance) : t.written.call = t.call := by
  simp only [Written.call, written, call, List.map_map, Call.mk.injEq, true_and]
  apply List.map_congr_left
  intro entry _
  by_cases hp : entry.1.isUniform <;> simp [writtenParameter, hp]

/-- What is written stays if kind and variant stay and each uniform changes into one that is written
alike. -/
theorem written_of_map {f : Parameter × Uniform → Parameter × Uniform} (hkind : t'.kind = t.kind)
    (hvariant : t'.variant = t.variant) (hparameters : t'.parameters = t.parameters.map f)
    (hf : ∀ entry, writtenParameter (f entry) = writtenParameter entry) :
    t'.written = t.written := by
  simp only [written, source, hkind, hvariant, hparameters, List.map_map, Written.mk.injEq, true_and]
  exact List.map_congr_left fun entry _ => hf entry

theorem written_markDirty (t : Instance) : t.markDirty.written = t.written :=
  written_of_map rfl rfl parameters_markDirty fun _ => writtenParameter_congr rfl rfl fun _ => rfl

/-- A change of the uniforms that stand in the program is not seen if it keeps names and types. -/
theorem writtenParameter_onBacked {f : Uniform → Uniform} (hname : ∀ u, (f u).name = u.name)
    (htype : ∀ u, (f u).dataType = u.dataType) (entry : Parameter × Uniform) :
    writtenParameter (onBacked f entry) = writtenParameter entry := by
  unfold onBacked
  split
  next hp =>
    apply writtenParameter_congr (hname _) (htype _)
    intro hconstant
    rw [hp] at hconstant
    cases hconstant
  next => rfl

theorem written_bind (t : Instance) (locations : Locations) :
    (t.bind locations).written = t.written :=
  written_of_map rfl rfl (parameters_bind locations)
    (writtenParameter_onBacked (fun _ => rfl) fun _ => rfl)

theorem written_upload (t : Instance) : t.upload.1.written = t.written :=
  written_of_map rfl rfl parameters_upload
    (writtenParameter_onBacked Uniform.name_upload fun u => by simp [Uniform.dataType])

theorem zip_set {α β : Type} {xs : List α} {place : Nat} {x : α} (hx : xs[place]? = some x)
    (ys : List β) (y : β) : xs.zip (ys.set place y) = (xs.zip ys).set place (x, y) := by
  induction xs generalizing ys place with
  | nil => cases hx
  | cons first rest ih =>
      cases ys with
      | nil => rfl
      | cons other others =>
          cases place with
          | zero =>
              obtain rfl : first = x := Option.some.inj hx
              rfl
          | succ place => exact congrArg _ (ih hx others)

/-- An assignment changes a single entry, of a parameter with the name that it gives. -/
theorem parameters_of_set {name : String} {input : Input} (h : t.set name input = .ok t') :
    ∃ place p u value, t.parameters[place]? = some (p, u) ∧ p.name = name ∧
      input.resolve? u.dataType = some value ∧
      t'.parameters = t.parameters.set place (p, { u with value, dirty := true }) := by
  obtain ⟨place, u, value, hplace, hu, hvalue, rfl⟩ := set_eq_ok h
  obtain ⟨hlt, hname, _⟩ := List.findIdx?_eq_some_iff_getElem.mp hplace
  have hp : t.kind.parameters[place]? = some t.kind.parameters[place] :=
    List.getElem?_eq_getElem hlt
  exact ⟨place, _, u, value, getElem?_parameters.mpr ⟨hp, hu⟩, by simpa using hname, hvalue,
    zip_set hp _ _⟩

theorem kind_of_set {name : String} {input : Input} (h : t.set name input = .ok t') :
    t'.kind = t.kind ∧ t'.variant = t.variant := by
  obtain ⟨_, _, _, _, _, _, rfl⟩ := set_eq_ok h
  exact ⟨rfl, rfl⟩

/-- The new value of a uniform that stands in the program is not written. -/
theorem written_of_set {name : String} {input : Input} (h : t.set name input = .ok t')
    (hname : name ≠ Parameter.inlinedName) : t'.written = t.written := by
  obtain ⟨place, p, u, value, hplace, rfl, hvalue, hparameters⟩ := parameters_of_set h
  obtain ⟨hkind, hvariant⟩ := kind_of_set h
  have hp : p.isUniform = true := by simpa [Parameter.isUniform] using hname
  simp only [written, source, hkind, hvariant, hparameters, Written.mk.injEq, true_and]
  refine map_set_self writtenParameter hplace (writtenParameter_congr rfl ?_ ?_)
  · exact Input.dataType_of_resolve? hvalue
  · intro hconstant
    rw [hp] at hconstant
    cases hconstant

/-- No assignment reaches the declarations or the source, not even that of a constant. -/
theorem declarations_of_set {name : String} {input : Input} (h : t.set name input = .ok t') :
    t'.written.declarations = t.written.declarations ∧ t'.source = t.source := by
  obtain ⟨place, p, u, value, hplace, _, hvalue, hparameters⟩ := parameters_of_set h
  obtain ⟨hkind, hvariant⟩ := kind_of_set h
  have hfst : t'.parameters.map (Prod.fst ∘ writtenParameter) =
      t.parameters.map (Prod.fst ∘ writtenParameter) := by
    rw [hparameters]
    exact map_set_self (Prod.fst ∘ writtenParameter) hplace
      (writtenParameter_fst_congr rfl (Input.dataType_of_resolve? hvalue))
  constructor
  · have hdeclarations := congrArg (List.filterMap id) hfst
    simpa only [List.filterMap_map, Function.id_comp, Written.declarations, written]
      using hdeclarations
  · simp only [source, hkind, hvariant]

end Instance

namespace Dispatch

/-- The lines in front of the cases. -/
def opening : String :=
  Glsl.text [signature ++ " \x7b", "    switch ( id ) \x7b"]

/-- A case as it stands in the function. -/
def caseText (label : Nat) (call : Call) : String :=
  Glsl.text (Glsl.indent 8 (caseLines label call))

/-- The lines behind the cases. -/
def closing : String :=
  Glsl.text ["        default:", "            return vec3(0.);", "    \x7d", "\x7d"]

/-- The function is its cases between fixed lines. -/
theorem writeSwitch_eq (calls : List Call) :
    writeSwitch calls =
      opening ++ String.join (calls.zipIdx.map fun entry => caseText entry.2 entry.1) ++ closing := by
  have hlines : Glsl.blockBy 4 signature (Glsl.blockBy 4 "switch ( id )"
      (calls.zipIdx.flatMap (fun entry => caseLines entry.2 entry.1) ++
        ["default:", "    return vec3(0.);"])) =
      [signature ++ " \x7b", "    switch ( id ) \x7b"] ++
        calls.zipIdx.flatMap (fun entry => Glsl.indent 8 (caseLines entry.2 entry.1)) ++
        ["        default:", "            return vec3(0.);", "    \x7d", "\x7d"] := by
    rw [Glsl.blockBy, Glsl.indent_blockBy, Glsl.indent_append, Glsl.indent_flatMap]
    simp only [List.append_assoc, List.cons_append]
    rfl
  rw [writeSwitch, hlines, Glsl.text_append, Glsl.text_append, Glsl.text_flatMap]
  rfl

end Dispatch

namespace Registry

variable {r r' : Registry}

theorem declarations_eq_written (r : Registry) :
    r.declarations =
      String.join ((r.instances.map Instance.written).flatMap Written.declarations) := by
  simp only [declarations, declared, List.map_flatMap, List.flatMap_map,
    Instance.declarations_written]

theorem bodies_eq (r : Registry) :
    r.dispatch.bodies = String.join (((r.instances.map Instance.source).flatMap
      Source.chunks).eraseDups.map Dispatch.writeChunk) := by
  rw [List.flatMap_map]
  rfl

/-- The cases of the dispatch function, in order. -/
def caseTexts (r : Registry) : List String :=
  r.instances.zipIdx.map fun entry => Dispatch.caseText entry.2 entry.1.call

theorem switch_eq (r : Registry) :
    r.dispatch.switch = Dispatch.opening ++ String.join r.caseTexts ++ Dispatch.closing := by
  simp only [dispatch, Dispatch.ofInstances, Dispatch.writeSwitch_eq, List.zipIdx_map, List.map_map]
  rfl

theorem getElem?_caseTexts (r : Registry) (number : Nat) :
    r.caseTexts[number]? = (r.get? number).map fun t => Dispatch.caseText number t.call := by
  simp [caseTexts, get?, Function.comp_def]

/-- Registries of which the same is written have the same source. -/
theorem source_eq_of_written
    (h : r'.instances.map Instance.written = r.instances.map Instance.written) :
    r'.declarations = r.declarations ∧ r'.dispatch = r.dispatch := by
  have hsources := congrArg (List.map Written.source) h
  have hcalls := congrArg (List.map Written.call) h
  simp only [List.map_map, Function.comp_def, Instance.call_written] at hsources hcalls
  constructor
  · rw [declarations_eq_written, h, ← declarations_eq_written]
  · have hbodies : r'.dispatch.bodies = r.dispatch.bodies := by
      rw [bodies_eq, bodies_eq]
      exact congrArg _ (congrArg _ (congrArg _ (congrArg (List.flatMap Source.chunks) hsources)))
    have hswitch : r'.dispatch.switch = r.dispatch.switch :=
      congrArg Dispatch.writeSwitch hcalls
    exact Dispatch.mk.injEq .. |>.mpr ⟨hbodies, hswitch⟩

end Registry

end Texture

end SphereTrace
