import Mathlib.Data.List.Basic
import SphereTrace.Fragment.Assembly
import SphereTrace.Proofs.Glsl.Literals
import SphereTrace.Proofs.Text.Bytes
import SphereTrace.Proofs.Uniform.Recorder

/-! # How many uniforms a shader declares

A line declares one uniform at most, and less than two hundred lines of a shader are fixed. So the
texts that are put into it bound the number of its declarations, and only a shader of gigabytes can
declare more uniforms than there are locations.
-/

namespace SphereTrace

namespace Text

/-- How many line feeds a text has. -/
def feeds (s : String) : Nat :=
  s.toList.count '\n'

theorem feeds_append (s t : String) : feeds (s ++ t) = feeds s + feeds t := by
  rw [feeds, String.toList_append, List.count_append]
  rfl

theorem feeds_join_le {ss : List String} {bounds : List Nat}
    (h : List.Forall₂ (fun s n => feeds s ≤ n) ss bounds) :
    feeds (String.join ss) ≤ bounds.sum := by
  induction h with
  | nil => exact Nat.le_refl 0
  | cons hs _ ih =>
      rw [String.join_cons, feeds_append, List.sum_cons]
      exact Nat.add_le_add hs ih

theorem feeds_of_isLine {s : String} (h : IsLine s.toList) : feeds s = 0 :=
  List.count_eq_zero.mpr fun hmem => (h _ hmem).1 rfl

theorem feeds_le_utf8ByteSize (s : String) : feeds s ≤ s.utf8ByteSize :=
  List.count_le_length.trans (length_le_utf8ByteSize s)

/-- A text has at most one line more than line feeds. -/
theorem length_lines_le (cs : List Char) : (lines cs).length ≤ cs.count '\n' + 1 := by
  suffices h : ∀ line, (linesFrom line cs).length ≤ cs.count '\n' + 1 from h []
  induction cs with
  | nil =>
      intro line
      unfold linesFrom
      split <;> simp
  | cons c rest ih =>
      intro line
      unfold linesFrom
      split
      next hfeed =>
        rw [hfeed, List.count_cons_self, List.length_cons]
        exact Nat.succ_le_succ (ih [])
      next hfeed =>
        rw [List.count_cons_of_ne hfeed]
        exact ih (c :: line)

theorem dropTail_sublist (p : Char → Bool) (cs : List Char) : (dropTail p cs).Sublist cs := by
  have hdropped := (List.dropWhile_sublist p (l := cs.reverse)).reverse
  rwa [List.reverse_reverse] at hdropped

end Text

open Text (IsLine feeds feeds_append feeds_join_le feeds_of_isLine)

theorem Glsl.feeds_text_cons (l : String) (rest : Lines) :
    feeds (text (l :: rest)) = feeds l + 1 + feeds (text rest) := by
  have htext : text (l :: rest) = l ++ "\n" ++ text rest := String.join_cons
  have hend : feeds "\n" = 1 := by decide
  rw [htext, feeds_append, feeds_append, hend]

/-- A text of lines has a line feed for each. -/
theorem Glsl.feeds_text {ls : Lines} (h : ∀ l ∈ ls, IsLine l.toList) :
    feeds (text ls) = ls.length := by
  induction ls with
  | nil => rfl
  | cons l rest ih =>
      obtain ⟨hl, hrest⟩ := List.forall_mem_cons.mp h
      rw [feeds_text_cons, feeds_of_isLine hl, ih hrest, List.length_cons, Nat.zero_add,
        Nat.add_comm]

theorem Recorder.length_names_ofSource_le (source : String) :
    (ofSource source).names.length ≤ feeds source + 1 :=
  (List.length_filterMap_le _ _).trans (Text.length_lines_le _)

namespace Fragment

open Glsl

/-! Every fixed line is one line. -/

namespace Fixed

theorem isLine_preamble : ∀ l ∈ preamble, IsLine l.toList := by
  simp only [preamble, forall_isLine_record, List.forall_mem_append, List.forall_mem_cons,
    List.not_mem_nil, false_implies, implies_true, and_true]
  and_intros <;> with_reducible exact isLine_ofList (by decide)

theorem isLine_length8 : ∀ l ∈ length8, IsLine l.toList := by
  simp only [length8, block, forall_isLine_blockBy, List.forall_mem_cons, List.not_mem_nil,
    false_implies, implies_true, and_true]
  and_intros <;> with_reducible exact isLine_ofList (by decide)

theorem isLine_marchLoop (steps : Nat) : IsLine (marchLoop steps).toList :=
  isLine_append (isLine_append (isLine_ofList (by decide))
    (legible_of_numeral (numeral_toString_nat steps)).isLine) (isLine_ofList (by decide))

theorem isLine_raytrace (steps : Nat) : ∀ l ∈ raytrace steps, IsLine l.toList := by
  simp only [raytrace, marchSignature, marchStart, marchStep, marchEnd, block,
    forall_isLine_blockBy, isLine_marchLoop, List.forall_mem_append, List.forall_mem_cons,
    List.not_mem_nil, false_implies, implies_true, and_true, true_and]
  and_intros <;> with_reducible exact isLine_ofList (by decide)

theorem isLine_normal : ∀ l ∈ normal, IsLine l.toList := by
  simp only [normal, block, forall_isLine_blockBy, List.forall_mem_append, List.forall_mem_cons,
    List.not_mem_nil, false_implies, implies_true, and_true]
  and_intros <;> with_reducible exact isLine_ofList (by decide)

theorem isLine_camera : ∀ l ∈ camera, IsLine l.toList := by
  simp only [camera, block, forall_isLine_blockBy, List.forall_mem_append, List.forall_mem_cons,
    List.not_mem_nil, false_implies, implies_true, and_true]
  and_intros <;> with_reducible exact isLine_ofList (by decide)

theorem isLine_operations : ∀ l ∈ operations, IsLine l.toList := by
  simp only [operations, block, forall_isLine_blockBy, List.forall_mem_append,
    List.forall_mem_cons, List.not_mem_nil, false_implies, implies_true, and_true]
  and_intros <;> with_reducible first
    | exact isLine_ofList (by decide)
    | exact isLine_oneLine (isLine_ofList (by decide)) (isLine_ofList (by decide))

theorem isLine_colorFromInt : ∀ l ∈ colorFromInt, IsLine l.toList := by
  simp only [colorFromInt, block, forall_isLine_blockBy, List.forall_mem_cons, List.not_mem_nil,
    false_implies, implies_true, and_true]
  and_intros <;> with_reducible exact isLine_ofList (by decide)

theorem isLine_aiming : ∀ l ∈ aiming, IsLine l.toList := by
  simp only [aiming, List.forall_mem_cons, List.not_mem_nil, false_implies, implies_true, and_true]
  and_intros <;> with_reducible exact isLine_ofList (by decide)

theorem isLine_shading : ∀ l ∈ shading, IsLine l.toList := by
  simp only [shading, block, forall_isLine_blockBy, List.forall_mem_append, List.forall_mem_cons,
    List.not_mem_nil, false_implies, implies_true, and_true]
  and_intros <;> with_reducible exact isLine_ofList (by decide)

end Fixed

namespace Request

theorem feeds_fixed {ls : Lines} (h : ∀ l ∈ ls, IsLine l.toList) :
    feeds (fixed ls) = ls.length :=
  Glsl.feeds_text h

theorem feeds_splice_le (fragment : String) : feeds (splice fragment) ≤ feeds fragment + 2 := by
  have hempty : feeds "" = 0 := rfl
  have hend : feeds "\n" = 1 := by decide
  unfold splice
  split
  next => omega
  next =>
    rw [feeds_append, feeds_append, hend]
    split <;> omega

theorem feeds_appendBlock_le (target block : String) :
    feeds (appendBlock target block) ≤ feeds target + feeds block + 1 := by
  have hend : feeds "\n" = 1 := by decide
  unfold appendBlock
  split
  next => omega
  next =>
    split
    next => rw [feeds_append]; omega
    next => rw [feeds_append, feeds_append, hend]; omega

theorem feeds_backgroundPiece_le (background : Option (Vec3 Binary32)) :
    feeds (backgroundPiece background) ≤ 1 := by
  cases background with
  | none => exact Nat.zero_le _
  | some colour =>
      have hline : IsLine ("const vec3 bg = " ++ vectorLiteral colour.toList ++ ";").toList :=
        isLine_append (isLine_append (isLine_ofList (by decide))
          (isArgument_vectorLiteral _).line) (isLine_ofList (by decide))
      exact (feeds_fixed (List.forall_mem_singleton.mpr hline)).le

theorem isLine_marchLine (r : Request) : IsLine r.marchLine.toList := by
  have hnumber : ∀ x : Binary32, IsLine (floatLiteral x).toList :=
    fun x => (legible_of_numeral (numeral_floatLiteral x).1).isLine
  exact isLine_append (isLine_append (isLine_append (isLine_append (isLine_ofList (by decide))
    (hnumber _)) (isLine_ofList (by decide))) (hnumber _)) (isLine_ofList (by decide))

theorem feeds_sceneExpression_le (r : Request) : feeds r.sceneExpression ≤ feeds r.scene := by
  have hsublist : (Text.dropTail (· == ';') (Text.trimChars r.scene.toList)).Sublist
      r.scene.toList :=
    (Text.dropTail_sublist _ _).trans ((Text.dropTail_sublist _ _).trans
      (List.dropWhile_sublist _))
  rw [sceneExpression, feeds, String.toList_ofList]
  exact hsublist.count_le _

theorem isLine_section {ls : Lines} (h : ∀ l ∈ ls, IsLine l.toList) :
    ∀ l ∈ ls ++ [""], IsLine l.toList :=
  List.forall_mem_append.mpr ⟨h, List.forall_mem_singleton.mpr (isLine_ofList (by decide))⟩

theorem isLine_library (r : Request) :
    ∀ l ∈ Fixed.raytrace r.steps.toNat ++ [""] ++ Fixed.normal ++ [""] ++ Fixed.camera ++ [""] ++
      Fixed.operations ++ [""], IsLine l.toList := by
  have hraytrace := isLine_section (Fixed.isLine_raytrace r.steps.toNat)
  have hnormal := List.forall_mem_append.mpr ⟨hraytrace, Fixed.isLine_normal⟩
  have hcamera := List.forall_mem_append.mpr ⟨isLine_section hnormal, Fixed.isLine_camera⟩
  have hoperations := List.forall_mem_append.mpr ⟨isLine_section hcamera, Fixed.isLine_operations⟩
  exact isLine_section hoperations

theorem isLine_body (r : Request) :
    ∀ l ∈ indent 2 (Fixed.aiming ++ [r.marchLine] ++ Fixed.shading), IsLine l.toList := by
  have haimed := List.forall_mem_append.mpr
    ⟨Fixed.isLine_aiming, List.forall_mem_singleton.mpr r.isLine_marchLine⟩
  exact forall_isLine_indent.mpr (List.forall_mem_append.mpr ⟨haimed, Fixed.isLine_shading⟩)

theorem feeds_result_le (r : Request) :
    feeds (fixed ["  return " ++ r.sceneExpression ++ ";", "\x7d", ""]) ≤ feeds r.scene + 3 := by
  have hexpression := r.feeds_sceneExpression_le
  have hreturn : feeds "  return " = 0 := by decide
  have hsemicolon : feeds ";" = 0 := by decide
  have hrest : feeds (text ["\x7d", ""]) = 2 := by decide
  rw [fixed, feeds_text_cons, feeds_append, feeds_append]
  omega

/-- Less than two hundred lines of a shader are not the caller's. -/
theorem feeds_assemble_le (r : Request) :
    feeds r.assemble ≤ feeds r.declarations + feeds r.geometries + feeds r.lighting +
      feeds r.preface + feeds r.scene + feeds r.postprocessing + 200 := by
  have hpieces : List.Forall₂ (fun piece n => feeds piece ≤ n) r.pieces
      [31, 1, feeds r.declarations + 2, 4, feeds r.geometries + 2, 2, 111, feeds r.lighting + 2,
        9, 1, feeds r.preface + 2, feeds r.scene + 3, 2, 1, 14, feeds r.postprocessing + 2, 2] :=
    .cons (feeds_fixed Fixed.isLine_preamble).le <|
    .cons (feeds_backgroundPiece_le _) <|
    .cons (feeds_splice_le _) <|
    .cons (feeds_fixed (isLine_section Fixed.isLine_length8)).le <|
    .cons (feeds_splice_le _) <|
    .cons (by decide) <|
    .cons (feeds_fixed r.isLine_library).le <|
    .cons (feeds_splice_le _) <|
    .cons (feeds_fixed (isLine_section Fixed.isLine_colorFromInt)).le <|
    .cons (by decide) <|
    .cons (feeds_splice_le _) <|
    .cons r.feeds_result_le <|
    .cons (by decide) <|
    .cons (by decide) <|
    .cons (feeds_fixed r.isLine_body).le <|
    .cons (feeds_splice_le _) <|
    .cons (by decide) .nil
  refine (feeds_join_le hpieces).trans ?_
  simp only [List.sum_cons, List.sum_nil]
  omega

/-- How many bytes the texts of a caller have. -/
def bytes (r : Request) : Nat :=
  r.declarations.utf8ByteSize + r.geometries.utf8ByteSize + r.lighting.utf8ByteSize +
    r.preface.utf8ByteSize + r.scene.utf8ByteSize + r.postprocessing.utf8ByteSize

theorem feeds_assemble_withTextures_le (r : Request) (textures : Texture.Registry) :
    feeds (r.withTextures textures).assemble ≤ r.bytes +
      textures.declarations.utf8ByteSize + textures.dispatch.text.utf8ByteSize + 202 := by
  have hdeclarations : feeds (r.withTextures textures).declarations ≤
      r.declarations.utf8ByteSize + textures.declarations.utf8ByteSize + 1 := by
    refine (feeds_appendBlock_le r.declarations textures.declarations).trans ?_
    gcongr <;> exact Text.feeds_le_utf8ByteSize _
  have hgeometries : feeds (r.withTextures textures).geometries ≤
      r.geometries.utf8ByteSize + textures.dispatch.text.utf8ByteSize + 1 := by
    refine (feeds_appendBlock_le r.geometries textures.dispatch.text).trans ?_
    gcongr <;> exact Text.feeds_le_utf8ByteSize _
  calc feeds (r.withTextures textures).assemble
      ≤ feeds (r.withTextures textures).declarations + feeds (r.withTextures textures).geometries +
          feeds r.lighting + feeds r.preface + feeds r.scene + feeds r.postprocessing + 200 :=
        feeds_assemble_le _
    _ ≤ (r.declarations.utf8ByteSize + textures.declarations.utf8ByteSize + 1) +
          (r.geometries.utf8ByteSize + textures.dispatch.text.utf8ByteSize + 1) +
          r.lighting.utf8ByteSize + r.preface.utf8ByteSize + r.scene.utf8ByteSize +
          r.postprocessing.utf8ByteSize + 200 := by
        gcongr <;> exact Text.feeds_le_utf8ByteSize _
    _ = _ := by
        rw [bytes]
        omega

/-- A program that is compiled from less than two gigabytes has a location for each name. -/
theorem fits_ofSource (r : Request) (textures : Texture.Registry)
    (h : r.bytes + textures.declarations.utf8ByteSize + textures.dispatch.text.utf8ByteSize ≤
      2147483000) :
    (Recorder.ofSource (r.withTextures textures).assemble).Fits := by
  have hnames := Recorder.length_names_ofSource_le (r.withTextures textures).assemble
  have hfeeds := r.feeds_assemble_withTextures_le textures
  exact hnames.trans (by omega)

end Request

end Fragment

end SphereTrace
