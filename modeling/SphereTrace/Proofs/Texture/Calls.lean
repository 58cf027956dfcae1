import SphereTrace.Proofs.Glsl.Literals
import SphereTrace.Proofs.Texture.Declarations
import SphereTrace.Texture.Dispatch

/-! # Reading calls back

A call is read off its text: the entry function, and the arguments between its parentheses. Where
the names are legible, the arguments behind coordinate and normal are the names and the constants
that stand for the parameters.
-/

namespace SphereTrace

open Text (IsArgument IsLine)

namespace Texture

/-- A kind whose names can be read back out of what is written with them. -/
structure Kind.Legible (k : Kind) : Prop where
  parameters : ∀ p ∈ k.parameters, SphereTrace.Legible p.name
  entries : ∀ s ∈ k.sources, SphereTrace.Legible s.entry

/-- The entry function of a call and all its arguments. -/
def readCall (call : String) : String × List String :=
  let entry := call.toList.takeWhile (· != '(')
  let inner := (call.toList.drop (entry.length + 1)).dropLast
  (String.ofList entry, (Text.readArguments inner).map String.ofList)

namespace Call

/-- All arguments as they are written, with coordinate and normal. -/
def texts (c : Call) : List String :=
  c.coordinate :: "nor" :: c.arguments.map Argument.text

theorem toList_text (c : Call) :
    c.text.toList = c.entry.toList ++
      '(' :: (' ' :: ([',', ' '].intercalate (c.texts.map String.toList) ++ [' ']) ++ [')']) := by
  simp [text, texts]

/-- Entry and arguments can be read back. -/
structure Readable (c : Call) : Prop where
  entry : Legible c.entry
  arguments : ∀ a ∈ c.texts, IsArgument a.toList

theorem Readable.isLine {c : Call} (h : c.Readable) : IsLine c.text.toList := by
  intro char hchar
  rw [toList_text] at hchar
  simp only [List.mem_append, List.mem_cons, List.not_mem_nil, or_false] at hchar
  rcases hchar with hentry | rfl | (rfl | hinner | rfl) | rfl
  · exact h.entry.isLine char hentry
  · decide
  · decide
  · have hseparator : IsLine [',', ' '] := by decide
    rcases Glsl.mem_intercalate hinner with hsep | ⟨_, hwritten, hmem⟩
    · exact hseparator char hsep
    · obtain ⟨a, ha, rfl⟩ := List.mem_map.mp hwritten
      exact (h.arguments a ha).line char hmem
  · decide
  · decide

theorem readCall_text {c : Call} (h : c.Readable) : readCall c.text = (c.entry, c.texts) := by
  have hentry : c.text.toList.takeWhile (· != '(') = c.entry.toList := by
    rw [toList_text, List.takeWhile_append_of_pos, List.takeWhile_cons_of_neg (by decide),
      List.append_nil]
    intro char hchar
    simpa using (isLegible_iff.mp (h.entry char hchar)).2.2.2.1
  have hinner : (c.text.toList.drop (c.entry.toList.length + 1)).dropLast =
      ' ' :: ([',', ' '].intercalate (c.texts.map String.toList) ++ [' ']) := by
    rw [toList_text, List.append_cons, List.drop_left' (by simp), List.dropLast_concat]
  have harguments : Text.readArguments
      (' ' :: ([',', ' '].intercalate (c.texts.map String.toList) ++ [' '])) =
        c.texts.map String.toList := by
    apply Text.readArguments_intercalate
    intro cs (hcs : cs ∈ c.texts.map String.toList)
    obtain ⟨a, ha, rfl⟩ := List.mem_map.mp hcs
    exact h.arguments a ha
  simp only [readCall, hentry, hinner, harguments, List.map_map, String.ofList_toList]
  exact congrArg _ ((List.map_congr_left fun a _ => String.ofList_toList).trans (List.map_id _))

end Call

/-- The arguments of those parameters that are uniforms, with the types that the kind gives them. -/
def Kind.backedArguments (k : Kind) (arguments : List String) : List (String × String) :=
  ((k.parameters.zip arguments).filter fun entry => entry.1.isUniform).map
    fun entry => (entry.1.type.name, entry.2)

namespace Instance

variable {t : Instance} {number : Nat}

/-- What stands in a call for a parameter: the name of its uniform, or its value as a constant. -/
def argument (entry : Parameter × Uniform) : String :=
  if entry.1.isUniform then entry.2.name else entry.2.value.literal

theorem texts_call (t : Instance) :
    t.call.texts = t.variant.coordinate :: "nor" :: t.parameters.map argument := by
  simp only [Call.texts, call, List.map_map, List.cons.injEq, true_and]
  apply List.map_congr_left
  intro entry _
  by_cases hp : entry.1.isUniform <;> simp [argument, Argument.text, Uniform.literal, hp]

theorem readable_call (hformed : t.WellFormed) (hnumber : t.NumberedAs number)
    (hkind : t.kind.Legible) : t.call.Readable where
  entry := by
    obtain ⟨s, hs⟩ := Option.isSome_iff_exists.mp hformed.selected
    have hsource : t.source = s := by rw [source, hs, Option.getD_some]
    rw [call, hsource]
    exact hkind.entries s (Kind.mem_sources hs)
  arguments := by
    intro a ha
    simp only [texts_call, List.mem_cons, List.mem_map] at ha
    rcases ha with rfl | rfl | ⟨⟨p, u⟩, hmem, rfl⟩
    · exact Text.isArgument_of_legible (by cases t.variant <;> decide)
    · exact Text.isArgument_of_legible (by decide)
    · unfold argument
      split
      next =>
        rw [hnumber.name_eq hmem]
        exact Text.isArgument_of_legible
          (legible_boundName (hkind.parameters p (List.of_mem_zip hmem).1) number)
      next => exact Glsl.isArgument_literal _

theorem readCall_call (hformed : t.WellFormed) (hnumber : t.NumberedAs number)
    (hkind : t.kind.Legible) :
    readCall t.call.text =
      (t.source.entry, t.variant.coordinate :: "nor" :: t.parameters.map argument) := by
  rw [Call.readCall_text (readable_call hformed hnumber hkind), texts_call]
  rfl

/-- The uniforms among the arguments of a call are the declared ones of the instance. -/
theorem backedArguments_parameters (hformed : t.WellFormed) :
    t.kind.backedArguments (t.parameters.map argument) =
      t.declared.map fun u => (u.dataType.name, u.name) := by
  have hzip : t.kind.parameters.zip (t.parameters.map argument) =
      t.parameters.map fun entry => (entry.1, argument entry) :=
    zip_map_zip _ _ _
  rw [Kind.backedArguments, hzip, List.filter_map, List.map_map, declared, List.map_map]
  apply List.map_congr_left
  rintro ⟨p, u⟩ hmem
  have hp : p.isUniform = true := (List.mem_filter.mp hmem).2
  simp [argument, hp, hformed.dataType_eq (List.mem_of_mem_filter hmem)]

end Instance

end Texture

end SphereTrace
