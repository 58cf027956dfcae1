import SphereTrace.Proofs.Text.Legible
import SphereTrace.Proofs.Texture.Naming
import SphereTrace.Uniform.Recorder

/-! # Reading declarations back

What the declarations of a registry say is read off their text, line by line. Names without blanks
and punctuation come back as they were written, so the text declares the uniforms of the registry
and nothing else.
-/

namespace SphereTrace

open Text (IsLine IsWord IsTrimmed)

/-- The type and the name that a line declares: the words behind `uniform`, up to a semicolon. -/
def readDeclaration? (line : List Char) : Option (String × String) :=
  match Text.words (Text.dropTail (· == ';') (Text.trimChars line)) with
  | [first, type, name] =>
    if first = "uniform".toList then some (String.ofList type, String.ofList name) else none
  | _ => none

/-- The types and names of all uniforms that a text declares, line by line. -/
def readDeclarations (source : String) : List (String × String) :=
  (Text.lines source.toList).filterMap readDeclaration?

theorem legible_dataType (type : Glsl.DataType) : Legible type.name := by
  cases type <;> decide

namespace Uniform

/-- The declaration without the end of its line. -/
def declarationLine (u : Uniform) : String :=
  "uniform " ++ u.dataType.name ++ " " ++ u.name ++ ";"

theorem toList_declarationLine (u : Uniform) :
    u.declarationLine.toList =
      "uniform".toList ++ ' ' :: (u.dataType.name.toList ++ ' ' :: (u.name.toList ++ [';'])) := by
  simp [declarationLine]

variable {u : Uniform}

theorem isLine_declarationLine (h : Legible u.name) : IsLine u.declarationLine.toList := by
  have hkeyword : Legible "uniform" := by decide
  have htype := (legible_dataType u.dataType).isLine
  have hname := h.isLine
  rw [toList_declarationLine]
  intro c hc
  simp only [List.mem_append, List.mem_cons, List.not_mem_nil, or_false] at hc
  rcases hc with hc | rfl | hc | rfl | hc | rfl
  · exact hkeyword.isLine c hc
  · decide
  · exact htype c hc
  · decide
  · exact hname c hc
  · decide

theorem words_declarationLine (h : Legible u.name) (hne : u.name ≠ "") :
    Text.words (Text.dropTail (· == ';') (Text.trimChars u.declarationLine.toList)) =
      ["uniform".toList, u.dataType.name.toList, u.name.toList] := by
  have htrimmed : IsTrimmed u.declarationLine.toList := by
    simp only [toList_declarationLine, ← List.cons_append, ← List.append_assoc]
    exact Text.isTrimmed_cons_concat (by decide) (by decide) _
  have htype := (legible_dataType u.dataType).isWord (by cases u.dataType <;> decide)
  have hname := h.isWord hne
  have hkeyword : Legible "uniform" := by decide
  rw [Text.trimChars_eq_self htrimmed, toList_declarationLine]
  simp only [← List.cons_append, ← List.append_assoc]
  rw [Text.dropTail_concat (by rfl)]
  simp only [List.append_assoc, List.cons_append]
  rw [Text.dropTail_eq_self, Text.words_append_blank (hkeyword.isWord (by decide)),
    Text.words_append_blank htype, Text.words_of_isWord hname]
  simp only [← List.cons_append, ← List.append_assoc]
  rw [List.append_cons, List.getLast?_append_of_ne_nil _ hname.ne_nil]
  cases hlast : u.name.toList.getLast? with
  | none => rfl
  | some c =>
      have hlegible := isLegible_iff.mp (h c (List.mem_of_mem_getLast? hlast))
      simpa using hlegible.2.2.1

theorem readDeclaration?_declarationLine (h : Legible u.name) (hne : u.name ≠ "") :
    readDeclaration? u.declarationLine.toList = some (u.dataType.name, u.name) := by
  simp only [readDeclaration?, words_declarationLine h hne, if_true, String.ofList_toList]

theorem declaredName?_declarationLine (h : Legible u.name) (hne : u.name ≠ "") :
    Recorder.declaredName? u.declarationLine.toList = some u.name := by
  simp only [Recorder.declaredName?, words_declarationLine h hne, if_true, String.ofList_toList]

end Uniform

namespace Texture

theorem Instance.legible_boundName {p : Parameter} (h : Legible p.name) (number : Nat) :
    Legible (boundName number p) := by
  intro c hc
  rw [toList_boundName] at hc
  simp only [List.mem_cons, List.mem_append] at hc
  rcases hc with rfl | rfl | rfl | hdigit | rfl | hname
  · decide
  · decide
  · decide
  · have hdigit := Nat.isDigit_of_mem_toDigits (by omega) (Nat.le_refl 10) hdigit
    exact isLegible_of_isAlphanum (.inl (by simp [Char.isAlphanum, hdigit]))
  · decide
  · exact h c hname

theorem Instance.boundName_ne_empty (number : Nat) (p : Parameter) : boundName number p ≠ "" := by
  intro h
  have hlist := congrArg String.toList h
  rw [toList_boundName] at hlist
  cases hlist

namespace Registry

theorem declarations_eq_text (r : Registry) :
    r.declarations = Glsl.text (r.declared.map Uniform.declarationLine) := by
  rw [declarations, Glsl.text, List.map_map]
  congr 1
  apply List.map_congr_left
  intro u _
  simp [Uniform.declaration, Uniform.declarationLine, String.append_assoc]

theorem mem_declarations_of_ne_empty {r : Registry} (h : r.declarations ≠ "") :
    'u' ∈ r.declarations.toList := by
  cases hdeclared : r.declared with
  | nil => exact absurd (by rw [declarations, hdeclared]; rfl) h
  | cons u others =>
      rw [declarations_eq_text, hdeclared, Glsl.toList_text, List.map_cons, List.flatMap_cons,
        Uniform.toList_declarationLine]
      simp

variable {c : Catalog} {ops : List Operation}

theorem legible_names_after
    (h : ∀ t ∈ (after c ops).instances, ∀ p ∈ t.kind.parameters, Legible p.name) :
    ∀ u ∈ (after c ops).declared, Legible u.name ∧ u.name ≠ "" := by
  intro u hu
  obtain ⟨t, ht, p, hp, number, _, hname⟩ := exists_name_eq hu
  rw [hname]
  exact ⟨Instance.legible_boundName (h t ht p hp) number, Instance.boundName_ne_empty number p⟩

theorem lines_declarations
    (h : ∀ t ∈ (after c ops).instances, ∀ p ∈ t.kind.parameters, Legible p.name) :
    Text.lines (after c ops).declarations.toList =
      (after c ops).declared.map fun u => u.declarationLine.toList := by
  rw [declarations_eq_text, Glsl.lines_text, List.map_map]
  · rfl
  · intro l hl
    obtain ⟨u, hu, rfl⟩ := List.mem_map.mp hl
    exact Uniform.isLine_declarationLine (legible_names_after h u hu).1

/-- The text declares the uniforms of the registry, with their types and in their order. -/
theorem readDeclarations_after
    (h : ∀ t ∈ (after c ops).instances, ∀ p ∈ t.kind.parameters, Legible p.name) :
    readDeclarations (after c ops).declarations =
      (after c ops).declared.map fun u => (u.dataType.name, u.name) := by
  rw [readDeclarations, lines_declarations h, List.filterMap_map, ← List.filterMap_eq_map]
  apply List.filterMap_congr
  intro u hu
  obtain ⟨hlegible, hne⟩ := legible_names_after h u hu
  rw [Function.comp_apply, Uniform.readDeclaration?_declarationLine hlegible hne]
  rfl

/-- Every program whose source holds these declarations knows all their names. -/
theorem mem_declaredNames
    (h : ∀ t ∈ (after c ops).instances, ∀ p ∈ t.kind.parameters, Legible p.name) {u : Uniform}
    (hu : u ∈ (after c ops).declared) :
    u.name ∈ (Recorder.ofSource (after c ops).declarations).names := by
  obtain ⟨hlegible, hne⟩ := legible_names_after h u hu
  rw [Recorder.ofSource, lines_declarations h, List.mem_filterMap]
  exact ⟨u.declarationLine.toList, List.mem_map.mpr ⟨u, hu, rfl⟩,
    Uniform.declaredName?_declarationLine hlegible hne⟩

end Registry

end Texture

end SphereTrace
