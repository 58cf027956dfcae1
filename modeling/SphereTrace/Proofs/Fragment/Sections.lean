import SphereTrace.Proofs.Fragment.Acceptance
import SphereTrace.Proofs.Fragment.Binding

/-! # The sections of a shader

The texts of a request and of its textures are written into a shader between fixed ones. Whatever
they are and however they end, each stands there unchanged, on lines of its own and in a fixed
order, so no line of the shader holds parts of two of them.
-/

namespace SphereTrace

namespace Text

/-- The text with its last line ended. -/
def endLine (s : String) : String :=
  if s = "" ∨ endsLine s then s else s ++ "\n"

theorem endLine_empty : endLine "" = "" :=
  rfl

theorem endLine_of_ended {s : String} (h : Ended s.toList) : endLine s = s := by
  refine if_pos ?_
  rcases h with hempty | hends
  · exact .inl (String.toList_eq_nil_iff.mp hempty)
  · exact .inr (endsLine_iff.mpr hends)

theorem ended_endLine (s : String) : Ended (endLine s).toList := by
  unfold endLine
  split
  next h =>
    rcases h with rfl | hends
    · exact ended_nil
    · exact .inr (endsLine_iff.mp hends)
  next =>
    rw [String.toList_append]
    exact ended_concat _

/-- Only the last line matters. -/
theorem endLine_append (first : String) {second : String} (h : second ≠ "") :
    endLine (first ++ second) = first ++ endLine second := by
  have hne : first ++ second ≠ "" := fun happend => h (String.append_eq_empty_iff.mp happend).2
  have hends : endsLine (first ++ second) = endsLine second := by
    have hchars : second.toList ≠ [] := fun hnil => h (String.toList_eq_nil_iff.mp hnil)
    rw [endsLine, endsLine, String.toList_append, List.getLast?_append_of_ne_nil _ hchars]
  simp only [endLine, hne, h, false_or, hends]
  split
  · rfl
  · rw [String.append_assoc]

/-- Texts with ended lines keep their lines when they are joined. -/
theorem lines_join_append {texts : List String} (h : ∀ text ∈ texts, Ended text.toList)
    (rest : String) :
    lines (String.join texts ++ rest).toList =
      texts.flatMap (fun text => lines text.toList) ++ lines rest.toList := by
  induction texts with
  | nil => rfl
  | cons text others ih =>
      obtain ⟨htext, hothers⟩ := List.forall_mem_cons.mp h
      rw [String.join_cons, String.append_assoc, String.toList_append, lines_append htext,
        ih hothers, List.flatMap_cons, List.append_assoc]

theorem ended_join {texts : List String} (h : ∀ text ∈ texts, Ended text.toList) :
    Ended (String.join texts).toList := by
  induction texts with
  | nil => exact ended_nil
  | cons text others ih =>
      obtain ⟨htext, hothers⟩ := List.forall_mem_cons.mp h
      rw [String.join_cons, String.toList_append]
      exact htext.append (ih hothers)

theorem isBlankText_append (first second : String) :
    isBlankText (first ++ second) = (isBlankText first && isBlankText second) := by
  rw [isBlankText, String.toList_append, List.all_append]
  rfl

theorem ne_empty_of_visible {s : String} (h : isBlankText s = false) : s ≠ "" := by
  rintro rfl
  cases h

end Text

namespace Fragment

open Text (Ended endLine isBlankText)
open Texture (Dispatch Registry)

/-- The parts of a shader, in their order. -/
inductive Part where
  | declarations
  | textureDeclarations
  | length8
  | geometries
  | textureBodies
  | textureSwitch
  | sceneDeclaration
  | lighting
  | preface
  | result
  | postprocessing
  | output

def Part.order : List Part :=
  [declarations, textureDeclarations, length8, geometries, textureBodies, textureSwitch,
    sceneDeclaration, lighting, preface, result, postprocessing, output]

namespace Request

/-- A text of the caller, unless there is nothing to see in it. -/
def shown (fragment : String) : String :=
  if isBlankText fragment then "" else fragment

/-- The empty line behind a text of the caller. -/
def spacing (fragment : String) : String :=
  if isBlankText fragment then "" else "\n"

/-- A blank text of the caller, which is only written in front of a block. -/
def padding (target block : String) : String :=
  if isBlankText target ∧ block ≠ "" then endLine target else ""

/-- The text of a part. -/
def part (r : Request) (textures : Registry) : Part → String
  | .declarations => shown r.declarations
  | .textureDeclarations => textures.declarations
  | .length8 => fixed Fixed.length8
  | .geometries => shown r.geometries
  | .textureBodies => textures.dispatch.bodies
  | .textureSwitch => textures.dispatch.switch
  | .sceneDeclaration => "vec2 scene(vec3 p);"
  | .lighting => shown r.lighting
  | .preface => shown r.preface
  | .result => "  return " ++ r.sceneExpression ++ ";"
  | .postprocessing => shown r.postprocessing
  | .output => "  col = vec4( color, 1.0 );"

/-- The text in front of a part, from the end of the part before it. -/
def gap (r : Request) (textures : Registry) : Part → String
  | .declarations => fixed Fixed.preamble ++ backgroundPiece r.background ++
      padding r.declarations textures.declarations
  | .textureDeclarations => ""
  | .length8 => spacing (r.withTextures textures).declarations
  | .geometries => "\n" ++ padding r.geometries textures.dispatch.text
  | .textureBodies => ""
  | .textureSwitch => ""
  | .sceneDeclaration => spacing (r.withTextures textures).geometries
  | .lighting => "\n" ++ fixed (Fixed.raytrace r.steps.toNat ++ [""] ++ Fixed.normal ++ [""] ++
      Fixed.camera ++ [""] ++ Fixed.operations ++ [""])
  | .preface => spacing r.lighting ++ fixed (Fixed.colorFromInt ++ [""]) ++
      fixed ["vec2 scene(vec3 p) \x7b"]
  | .result => spacing r.preface
  | .postprocessing => fixed ["\x7d", ""] ++ fixed ["out vec4 col;", ""] ++
      fixed ["void main() \x7b"] ++
      fixed (Glsl.indent 2 (Fixed.aiming ++ [r.marchLine] ++ Fixed.shading))
  | .output => spacing r.postprocessing

/-- A part with the gap in front of it. -/
def stretch (r : Request) (textures : Registry) (part : Part) : String :=
  r.gap textures part ++ endLine (r.part textures part)

theorem splice_eq (fragment : String) :
    splice fragment = endLine (shown fragment) ++ spacing fragment := by
  unfold splice shown spacing
  by_cases hblank : isBlankText fragment = true
  · simp only [hblank, if_true]
    rfl
  · have hne : fragment ≠ "" := Text.ne_empty_of_visible (by simpa using hblank)
    simp only [hblank, endLine, hne, false_or, if_false, Bool.false_eq_true]
    split <;> simp only [String.append_empty]

theorem appendBlock_eq (target : String) {block : String} (h : block ≠ "") :
    appendBlock target block = endLine target ++ block := by
  unfold appendBlock endLine
  rw [if_neg h]
  split <;> rfl

/-- A block with something in it is on lines of its own, behind the text of the caller. -/
theorem splice_appendBlock (target : String) {block : String}
    (h : block ≠ "" → isBlankText block = false) :
    splice (appendBlock target block) = padding target block ++ endLine (shown target) ++
      endLine block ++ spacing (appendBlock target block) := by
  by_cases hempty : block = ""
  · subst hempty
    have htarget : appendBlock target "" = target := rfl
    rw [htarget, splice_eq, padding, if_neg (by simp), Text.endLine_empty, String.empty_append,
      String.append_empty]
  · have hvisible : isBlankText (endLine target ++ block) = false := by
      rw [Text.isBlankText_append, h hempty, Bool.and_false]
    have htarget : padding target block ++ endLine (shown target) = endLine target := by
      unfold padding shown
      by_cases hblank : isBlankText target = true
      · rw [if_pos ⟨hblank, hempty⟩, if_pos hblank, Text.endLine_empty, String.append_empty]
      · rw [if_neg (fun hboth => hblank hboth.1), if_neg hblank, String.empty_append]
    rw [splice_eq, appendBlock_eq target hempty, htarget, shown, hvisible, if_neg (by decide),
      Text.endLine_append _ hempty]

section Dispatch

variable (d : Dispatch)

theorem text_dispatch : d.text = endLine d.bodies ++ d.switch := by
  unfold Dispatch.text endLine
  split <;> simp only [String.append_empty]

/-- Whatever the calls are, the function has a head. -/
theorem switch_visible (textures : Registry) : isBlankText textures.dispatch.switch = false := by
  have hswitch : ∃ rest, textures.dispatch.switch.toList = 'v' :: rest := by
    change ∃ rest, (Glsl.text ((Dispatch.signature ++ " \x7b") :: _)).toList = 'v' :: rest
    rw [Glsl.toList_text, List.flatMap_cons, String.toList_append]
    exact ⟨_, rfl⟩
  obtain ⟨rest, hrest⟩ := hswitch
  exact Text.isBlankText_eq_false_iff.mpr ⟨'v', hrest ▸ List.mem_cons_self, by decide⟩

end Dispatch

theorem splice_declarations (r : Request) (textures : Registry) :
    splice (r.withTextures textures).declarations =
      padding r.declarations textures.declarations ++ endLine (shown r.declarations) ++
        endLine textures.declarations ++ spacing (r.withTextures textures).declarations :=
  splice_appendBlock _ fun h => Text.isBlankText_eq_false_iff.mpr
    ⟨'u', Registry.mem_declarations_of_ne_empty h, by decide⟩

theorem splice_geometries (r : Request) (textures : Registry) :
    splice (r.withTextures textures).geometries =
      padding r.geometries textures.dispatch.text ++ endLine (shown r.geometries) ++
        (endLine textures.dispatch.bodies ++ endLine textures.dispatch.switch) ++
        spacing (r.withTextures textures).geometries := by
  have hswitch := switch_visible textures
  have hvisible : isBlankText textures.dispatch.text = false := by
    rw [text_dispatch, Text.isBlankText_append, hswitch, Bool.and_false]
  have hblock := Text.endLine_append (endLine textures.dispatch.bodies)
    (Text.ne_empty_of_visible hswitch)
  rw [← hblock, ← text_dispatch]
  exact splice_appendBlock _ fun _ => hvisible

theorem fixed_cons {l : String} (h : endLine l = l ++ "\n") (ls : Glsl.Lines) :
    fixed (l :: ls) = endLine l ++ fixed ls := by
  rw [h]
  exact String.join_cons

theorem pieces_withTextures (r : Request) (textures : Registry) :
    (r.withTextures textures).pieces =
      [fixed Fixed.preamble, backgroundPiece r.background,
        splice (r.withTextures textures).declarations, fixed (Fixed.length8 ++ [""]),
        splice (r.withTextures textures).geometries, fixed ["vec2 scene(vec3 p);", ""],
        fixed (Fixed.raytrace r.steps.toNat ++ [""] ++ Fixed.normal ++ [""] ++ Fixed.camera ++
          [""] ++ Fixed.operations ++ [""]),
        splice r.lighting, fixed (Fixed.colorFromInt ++ [""]), fixed ["vec2 scene(vec3 p) \x7b"],
        splice r.preface, fixed ["  return " ++ r.sceneExpression ++ ";", "\x7d", ""],
        fixed ["out vec4 col;", ""], fixed ["void main() \x7b"],
        fixed (Glsl.indent 2 (Fixed.aiming ++ [r.marchLine] ++ Fixed.shading)),
        splice r.postprocessing, fixed ["  col = vec4( color, 1.0 );", "\x7d"]] :=
  rfl

/-- The shader is its parts, with the gaps in front of them. -/
theorem assemble_eq_join (r : Request) (textures : Registry) :
    (r.withTextures textures).assemble =
      String.join (Part.order.map (r.stretch textures)) ++ fixed ["\x7d"] := by
  have hempty : fixed [""] = "\n" := rfl
  have hlength8 : fixed (Fixed.length8 ++ [""]) = endLine (fixed Fixed.length8) ++ "\n" := by
    rw [Text.endLine_of_ended (s := fixed Fixed.length8) (Glsl.ended_text _), ← hempty]
    exact Glsl.text_append _ _
  have hscene := fixed_cons (l := "vec2 scene(vec3 p);") (by decide) [""]
  have hreturn : endLine ("  return " ++ r.sceneExpression ++ ";") =
      "  return " ++ r.sceneExpression ++ ";" ++ "\n" := by
    have hend : endLine ";" = ";" ++ "\n" := by decide
    rw [Text.endLine_append _ (by decide), hend, String.append_assoc, String.append_assoc,
      String.append_assoc]
  have hresult := fixed_cons hreturn ["\x7d", ""]
  have houtput := fixed_cons (l := "  col = vec4( color, 1.0 );") (by decide) ["\x7d"]
  rw [assemble, pieces_withTextures, splice_declarations, splice_geometries, hlength8, hscene,
    hempty, hresult, houtput]
  simp only [splice_eq, String.join_cons, String.join_nil, Part.order, List.map_cons, List.map_nil,
    stretch, gap, part, String.append_empty, String.empty_append, String.append_assoc]

theorem ended_gap (r : Request) (textures : Registry) (part : Part) :
    Ended (r.gap textures part).toList := by
  have hline : Ended "\n".toList := Text.ended_concat []
  have hspacing : ∀ fragment, Ended (spacing fragment).toList := by
    intro fragment
    unfold spacing
    split
    · exact Text.ended_nil
    · exact hline
  have hpadding : ∀ target block, Ended (padding target block).toList := by
    intro target block
    unfold padding
    split
    · exact Text.ended_endLine target
    · exact Text.ended_nil
  cases part with
  | declarations =>
      rw [gap, String.toList_append, String.toList_append]
      exact ((Glsl.ended_text _).append (ended_backgroundPiece _)).append (hpadding _ _)
  | textureDeclarations | textureBodies | textureSwitch => exact Text.ended_nil
  | geometries =>
      rw [gap, String.toList_append]
      exact hline.append (hpadding _ _)
  | lighting =>
      rw [gap, String.toList_append]
      exact hline.append (Glsl.ended_text _)
  | preface =>
      rw [gap, String.toList_append, String.toList_append]
      exact ((hspacing _).append (Glsl.ended_text _)).append (Glsl.ended_text _)
  | postprocessing =>
      rw [gap, String.toList_append, String.toList_append, String.toList_append]
      exact (((Glsl.ended_text _).append (Glsl.ended_text _)).append (Glsl.ended_text _)).append
        (Glsl.ended_text _)
  | length8 | sceneDeclaration | result | output => exact hspacing _

theorem ended_stretch (r : Request) (textures : Registry) (part : Part) :
    Ended (r.stretch textures part).toList := by
  rw [stretch, String.toList_append]
  exact (r.ended_gap textures part).append (Text.ended_endLine _)

theorem ended_of_mem_stretches (r : Request) (textures : Registry) {parts : List Part} :
    ∀ text ∈ parts.map (r.stretch textures), Ended text.toList := by
  intro text htext
  obtain ⟨part, _, rfl⟩ := List.mem_map.mp htext
  exact r.ended_stretch textures part

/-- Every part is in the shader as it is, with its last line ended. It starts a line, since all that
is in front of it is ended. -/
theorem exists_assemble_eq_part (r : Request) (textures : Registry) (part : Part) :
    ∃ front back : String, Ended front.toList ∧
      (r.withTextures textures).assemble = front ++ endLine (r.part textures part) ++ back := by
  have hmem : part ∈ Part.order := by cases part <;> simp [Part.order]
  obtain ⟨before, after, horder⟩ := List.append_of_mem hmem
  refine ⟨String.join (before.map (r.stretch textures)) ++ r.gap textures part,
    String.join (after.map (r.stretch textures)) ++ fixed ["\x7d"], ?_, ?_⟩
  · rw [String.toList_append]
    exact (Text.ended_join (r.ended_of_mem_stretches textures)).append (r.ended_gap textures part)
  · rw [assemble_eq_join, horder, List.map_append, List.map_cons, String.join_append,
      String.join_cons, stretch]
    simp only [String.append_assoc]

/-- The texts of a request and of its textures are in the shader in a fixed order, each as it is and
from the start of a line to the end of one, whatever they are. So a line of the shader is a line of
one part or of one gap. -/
theorem assemble_sections (r : Request) (textures : Registry) :
    (r.withTextures textures).assemble =
        String.join (Part.order.map fun part =>
          r.gap textures part ++ endLine (r.part textures part)) ++ fixed ["\x7d"] ∧
      (∀ part, ∃ front back : String, Ended front.toList ∧
        (r.withTextures textures).assemble = front ++ endLine (r.part textures part) ++ back) ∧
      Text.lines (r.withTextures textures).assemble.toList =
        Part.order.flatMap (fun part => Text.lines (r.gap textures part).toList ++
          Text.lines (endLine (r.part textures part)).toList) ++ [['\x7d']] := by
  refine ⟨r.assemble_eq_join textures, r.exists_assemble_eq_part textures, ?_⟩
  have hbrace : Text.lines (fixed ["\x7d"]).toList = [['\x7d']] := rfl
  rw [assemble_eq_join, Text.lines_join_append (r.ended_of_mem_stretches textures),
    List.flatMap_map, hbrace]
  refine congrArg (· ++ [['\x7d']]) (List.flatMap_congr fun part _ => ?_)
  rw [stretch, String.toList_append, Text.lines_append (r.ended_gap textures part)]

end Request

end Fragment

end SphereTrace
