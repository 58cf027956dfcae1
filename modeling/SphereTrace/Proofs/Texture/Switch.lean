import SphereTrace.Proofs.Texture.Calls
import SphereTrace.Texture.Registry

/-! # Reading the dispatch back

A reader of the dispatch function collects the number and the result of every case. On what a
registry writes it finds the numbers of the instances in order, each with the call of its instance,
so the function selects by number what the registry holds under that number.
-/

namespace SphereTrace

open Text (IsLine IsTrimmed)

namespace Glsl

/-- Lines as they read without indentation. -/
def trimmed (ls : Lines) : List (List Char) :=
  ls.map fun l => Text.trimChars l.toList

theorem trimmed_append (first second : Lines) :
    trimmed (first ++ second) = trimmed first ++ trimmed second :=
  List.map_append

theorem trimmed_indent (width : Nat) (ls : Lines) : trimmed (indent width ls) = trimmed ls := by
  simp only [trimmed, indent, List.map_map]
  apply List.map_congr_left
  intro l _
  simp only [Function.comp_apply]
  split
  next => rfl
  next => rw [String.toList_append, String.toList_ofList, Text.trimChars_indent]

theorem trimmed_blockBy (width : Nat) {head : String} (body : Lines)
    (hhead : IsTrimmed (head ++ " \x7b").toList) :
    trimmed (blockBy width head body) =
      (head ++ " \x7b").toList :: (trimmed body ++ ["\x7d".toList]) := by
  have hclose : trimmed ["\x7d"] = ["\x7d".toList] := by decide
  rw [blockBy, trimmed_append, hclose, trimmed, List.map_cons, Text.trimChars_eq_self hhead]
  change _ :: trimmed (indent width body) ++ _ = _
  rw [trimmed_indent, List.cons_append]

end Glsl

namespace Texture

/-- The cases of a dispatch function, in order, and what any other number gives. -/
structure Switch where
  cases : List (Nat × String)
  fallback : String

/-- The result for a number. -/
def Switch.select (s : Switch) (id : Int) : String :=
  ((s.cases.find? fun entry => (entry.1 : Int) = id).map Prod.snd).getD s.fallback

theorem Switch.select_eq_of_mem {s : Switch} (hlabels : (s.cases.map Prod.fst).Nodup)
    {number : Nat} {result : String} (h : (number, result) ∈ s.cases) :
    s.select number = result := by
  unfold select
  cases hfind : s.cases.find? fun entry => (entry.1 : Int) = number with
  | none =>
      have hnone := List.find?_eq_none.mp hfind _ h
      simp at hnone
  | some entry =>
      have hlabel : (entry.1 : Int) = number := by simpa using List.find?_some hfind
      have hentry := List.inj_on_of_nodup_map hlabels (List.mem_of_find?_eq_some hfind) h
        (Int.ofNat_inj.mp hlabel)
      rw [hentry, Option.map_some, Option.getD_some]

theorem Switch.select_eq_fallback {s : Switch} {id : Int}
    (h : ∀ entry ∈ s.cases, (entry.1 : Int) ≠ id) : s.select id = s.fallback := by
  have hnone : (s.cases.find? fun entry => (entry.1 : Int) = id) = none := by
    simpa [List.find?_eq_none] using h
  rw [select, hnone, Option.map_none, Option.getD_none]

/-- What stands between two texts. -/
def between? (first last cs : List Char) : Option (List Char) :=
  (first.isPrefixOf? cs).bind last.isSuffixOf?

/-- A label is a number in decimal. -/
def readLabel? (cs : List Char) : Option Nat :=
  if cs ≠ [] ∧ cs.all Char.isDigit then some (Nat.ofDigitChars 10 cs 0) else none

/-- Reads lines without indentation: cases up to the default, behind which two braces close. -/
def readCases? : List (List Char) → Option Switch
  | label :: result :: rest =>
    match between? "return ".toList ";".toList result with
    | none => none
    | some text =>
      if label = "default:".toList then
        if rest = ["\x7d".toList, "\x7d".toList] then some ⟨[], String.ofList text⟩ else none
      else
        match (between? "case ".toList ":".toList label).bind readLabel?, readCases? rest with
        | some number, some s => some { s with cases := (number, String.ofList text) :: s.cases }
        | _, _ => none
  | _ => none

/-- Reads the whole function. -/
def readSwitch? (source : String) : Option Switch :=
  match (Text.lines source.toList).map Text.trimChars with
  | signature :: head :: rest =>
    if signature = (Dispatch.signature ++ " \x7b").toList ∧ head = "switch ( id ) \x7b".toList then
      readCases? rest
    else none
  | _ => none

theorem between?_append (first cs last : List Char) :
    between? first last (first ++ (cs ++ last)) = some cs := by
  rw [between?, List.isPrefixOf?_eq_some_iff_append_eq.mpr rfl, Option.bind_some,
    List.isSuffixOf?_eq_some_iff_append_eq.mpr rfl]

theorem readLabel?_toString (number : Nat) : readLabel? (toString number).toList = some number := by
  rw [Nat.toString_eq_repr, Nat.toList_repr, readLabel?, if_pos, Nat.ofDigitChars_ten_toDigits]
  refine ⟨Nat.toDigits_ne_nil, List.all_eq_true.mpr fun c hc => ?_⟩
  exact Nat.isDigit_of_mem_toDigits (by omega) (Nat.le_refl 10) hc

namespace Dispatch

theorem toList_label (label : Nat) :
    ("case " ++ toString label ++ ":").toList =
      "case ".toList ++ ((toString label).toList ++ ":".toList) := by
  simp only [String.toList_append, List.append_assoc]

theorem toList_result (call : Call) :
    ("return " ++ call.text ++ ";").toList =
      "return ".toList ++ (call.text.toList ++ ";".toList) := by
  simp only [String.toList_append, List.append_assoc]

theorem trimmed_caseLines (label : Nat) (call : Call) :
    Glsl.trimmed (caseLines label call) =
      [("case " ++ toString label ++ ":").toList, ("return " ++ call.text ++ ";").toList] := by
  have hindent : ("    return " ++ call.text ++ ";").toList =
      List.replicate 4 ' ' ++ ("return " ++ call.text ++ ";").toList := by
    simp only [String.toList_append, ← List.append_assoc]
    rfl
  have hlabel : IsTrimmed ("case " ++ toString label ++ ":").toList := by
    rw [toList_label, ← List.append_assoc]
    exact Text.isTrimmed_cons_concat (by decide) (by decide) _
  have hresult : IsTrimmed ("return " ++ call.text ++ ";").toList := by
    rw [toList_result, ← List.append_assoc]
    exact Text.isTrimmed_cons_concat (by decide) (by decide) _
  simp only [Glsl.trimmed, caseLines, List.map_cons, List.map_nil, hindent, Text.trimChars_indent,
    Text.trimChars_eq_self hlabel, Text.trimChars_eq_self hresult]

theorem readCases?_caseLines (label : Nat) (call : Call) {rest : List (List Char)} {s : Switch}
    (h : readCases? rest = some s) :
    readCases? (Glsl.trimmed (caseLines label call) ++ rest) =
      some { s with cases := (label, call.text) :: s.cases } := by
  have hdefault : "case ".toList ++ ((toString label).toList ++ ":".toList) ≠
      "default:".toList := by
    intro heq
    cases heq
  rw [trimmed_caseLines, List.cons_append, List.singleton_append, readCases?, toList_result,
    toList_label, between?_append, between?_append]
  simp only [if_neg hdefault, Option.bind_some, readLabel?_toString, h, String.ofList_toList]

/-- The cases are read back with their numbers, whatever the first number is. -/
theorem readCases?_flatMap (calls : List Call) (start : Nat) :
    readCases? (Glsl.trimmed ((calls.zipIdx start).flatMap fun entry =>
        caseLines entry.2 entry.1) ++
      ["default:".toList, "return vec3(0.);".toList, "\x7d".toList, "\x7d".toList]) =
      some ⟨(calls.zipIdx start).map fun entry => (entry.2, entry.1.text), "vec3(0.)"⟩ := by
  -- The cases behind the first one start at the next number.
  induction calls generalizing start with
  | nil => rfl
  | cons call rest ih =>
      rw [List.zipIdx_cons, List.flatMap_cons, Glsl.trimmed_append, List.append_assoc,
        readCases?_caseLines start call (ih (start + 1))]
      rfl

theorem isLine_caseLines {label : Nat} {call : Call} (h : call.Readable) :
    ∀ l ∈ caseLines label call, IsLine l.toList := by
  have hlabel : IsLine (toString label).toList :=
    (Glsl.legible_of_numeral (numeral_toString_nat label)).isLine
  intro l hl
  simp only [caseLines, List.mem_cons, List.not_mem_nil, or_false] at hl
  rcases hl with rfl | rfl
  · simp only [String.toList_append]
    exact (IsLine.append (by decide) hlabel).append (by decide)
  · simp only [String.toList_append]
    exact (IsLine.append (by decide) h.isLine).append (by decide)

/-- The whole function is read back. -/
theorem readSwitch?_writeSwitch {calls : List Call} (h : ∀ call ∈ calls, call.Readable) :
    readSwitch? (writeSwitch calls) =
      some ⟨calls.zipIdx.map fun entry => (entry.2, entry.1.text), "vec3(0.)"⟩ := by
  have hlast : ∀ l ∈ ["default:", "    return vec3(0.);"], IsLine l.toList := by decide
  have hcases : ∀ l ∈ calls.zipIdx.flatMap (fun entry => caseLines entry.2 entry.1) ++
      ["default:", "    return vec3(0.);"], IsLine l.toList := by
    intro l hl
    rcases List.mem_append.mp hl with hcase | hl
    · obtain ⟨⟨call, label⟩, hmem, hl⟩ := List.mem_flatMap.mp hcase
      exact isLine_caseLines (h call (List.fst_mem_of_mem_zipIdx hmem)) l hl
    · exact hlast l hl
  have hdefault : Glsl.trimmed ["default:", "    return vec3(0.);"] =
      ["default:".toList, "return vec3(0.);".toList] := by
    decide
  have hlines : (Text.lines (writeSwitch calls).toList).map Text.trimChars =
      (signature ++ " \x7b").toList :: "switch ( id ) \x7b".toList ::
        (Glsl.trimmed (calls.zipIdx.flatMap fun entry => caseLines entry.2 entry.1) ++
          ["default:".toList, "return vec3(0.);".toList, "\x7d".toList, "\x7d".toList]) := by
    rw [writeSwitch, Glsl.lines_text
      (Glsl.forall_isLine_blockBy.mpr
        ⟨by decide, Glsl.forall_isLine_blockBy.mpr ⟨by decide, hcases⟩⟩), List.map_map]
    change Glsl.trimmed _ = _
    rw [Glsl.trimmed_blockBy _ _ ⟨by decide, by decide⟩,
      Glsl.trimmed_blockBy _ _ ⟨by decide, by decide⟩, Glsl.trimmed_append, hdefault]
    simp only [List.append_assoc, List.cons_append, List.nil_append]
    rfl
  simp only [readSwitch?, hlines, readCases?_flatMap, and_self, if_true]

end Dispatch

end Texture

end SphereTrace
