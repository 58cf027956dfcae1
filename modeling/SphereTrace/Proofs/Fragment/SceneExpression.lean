import SphereTrace.Proofs.Fragment.Acceptance
import SphereTrace.Proofs.Text.Words

/-! # The result of the scene

The scene of a request is written as the result of a function. What surrounds it is dropped, blanks
first and then semicolons, so there is something to return exactly if the scene has a character that
is neither. A request is only checked for blanks: one whose scene is a semicolon is accepted, and
its function returns nothing.
-/

namespace SphereTrace.Fragment.Request

/-- Can the character be part of an expression? -/
def IsVisible (c : Char) : Prop :=
  Text.isBlank c = false ∧ c ≠ ';'

instance : DecidablePred IsVisible := fun c =>
  inferInstanceAs (Decidable (Text.isBlank c = false ∧ c ≠ ';'))

theorem mem_sceneExpression_iff (r : Request) {c : Char} (hc : IsVisible c) :
    c ∈ r.sceneExpression.toList ↔ c ∈ r.scene.toList := by
  rw [sceneExpression, String.toList_ofList,
    Text.mem_dropTail_iff (p := (· == ';')) (beq_eq_false_iff_ne.mpr hc.2),
    Text.mem_trimChars_iff hc.1]

/-- The definition of the scene in the shader. -/
theorem assemble_eq_scene (r : Request) :
    r.assemble = String.join (r.pieces.take 9) ++
      (fixed ["vec2 scene(vec3 p) \x7b"] ++ splice r.preface ++
        fixed ["  return " ++ r.sceneExpression ++ ";", "\x7d", ""]) ++
      String.join (r.pieces.drop 12) := by
  have hpieces : r.pieces = r.pieces.take 9 ++ (r.scenePieces ++ r.pieces.drop 12) := rfl
  have hscene : String.join r.scenePieces = fixed ["vec2 scene(vec3 p) \x7b"] ++ splice r.preface ++
      fixed ["  return " ++ r.sceneExpression ++ ";", "\x7d", ""] := by
    simp only [scenePieces, String.join_cons, String.join_nil, String.append_empty,
      String.append_assoc]
  rw [assemble, ← hscene, String.append_assoc, ← String.join_append, ← String.join_append,
    ← hpieces]

/-- What the function of the scene returns has something in it that is neither blank nor a semicolon
exactly if the scene of the request has. -/
theorem visible_sceneExpression_iff (r : Request) :
    r.assemble = String.join (r.pieces.take 9) ++
        (fixed ["vec2 scene(vec3 p) \x7b"] ++ splice r.preface ++
          fixed ["  return " ++ r.sceneExpression ++ ";", "\x7d", ""]) ++
        String.join (r.pieces.drop 12) ∧
      ((∃ c ∈ r.sceneExpression.toList, IsVisible c) ↔ ∃ c ∈ r.scene.toList, IsVisible c) := by
  refine ⟨r.assemble_eq_scene, ?_⟩
  constructor
  · rintro ⟨c, hmem, hc⟩
    exact ⟨c, (r.mem_sceneExpression_iff hc).mp hmem, hc⟩
  · rintro ⟨c, hmem, hc⟩
    exact ⟨c, (r.mem_sceneExpression_iff hc).mpr hmem, hc⟩

/-- A semicolon is a scene that is accepted, although it leaves nothing to return. -/
theorem not_visible_semicolon :
    let r := Request.ofScene ";"
    r.validate = .ok () ∧ r.tryAssemble = .ok r.assemble ∧ r.sceneExpression = "" ∧
      ¬ ∃ c ∈ r.sceneExpression.toList, IsVisible c := by
  intro r
  have hvalid : r.validate = .ok () := validate_eq_ok_iff.mpr (by decide)
  have hexpression : r.sceneExpression = "" := by decide
  refine ⟨hvalid, tryAssemble_eq_ok.mpr ⟨hvalid, rfl⟩, hexpression, ?_⟩
  rw [hexpression]
  rintro ⟨c, hmem, _⟩
  simp at hmem

end SphereTrace.Fragment.Request
