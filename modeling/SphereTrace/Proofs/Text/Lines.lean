import SphereTrace.Glsl.Block
import SphereTrace.Text.Lines

/-! # Reading lines back

Text whose last line is ended can be put in front of any text without changing the lines of either.
Lines that are written out, each ended, are therefore read back as they were. How lines are put
together from others, in blocks that are indented, is said here too.
-/

namespace SphereTrace

namespace Text

/-- The text is empty, or its last line is ended. -/
def Ended (cs : List Char) : Prop :=
  cs = [] ∨ ∃ init, cs = init ++ ['\n']

/-- Nothing in the text takes part in a line end. -/
def IsLine (cs : List Char) : Prop :=
  ∀ c ∈ cs, c ≠ '\n' ∧ c ≠ '\r'

instance (cs : List Char) : Decidable (IsLine cs) :=
  List.decidableBAll (fun c => c ≠ '\n' ∧ c ≠ '\r') cs

theorem IsLine.append {cs ds : List Char} (hcs : IsLine cs) (hds : IsLine ds) :
    IsLine (cs ++ ds) :=
  fun c hc => (List.mem_append.mp hc).elim (hcs c) (hds c)

theorem ended_nil : Ended [] :=
  .inl rfl

theorem ended_concat (cs : List Char) : Ended (cs ++ ['\n']) :=
  .inr ⟨cs, rfl⟩

theorem Ended.append {cs ds : List Char} (hcs : Ended cs) (hds : Ended ds) : Ended (cs ++ ds) := by
  rcases hds with rfl | ⟨init, rfl⟩
  · rw [List.append_nil]
    exact hcs
  · rw [← List.append_assoc]
    exact ended_concat _

theorem endsLine_iff {s : String} : endsLine s = true ↔ ∃ init, s.toList = init ++ ['\n'] := by
  simp only [endsLine, beq_iff_eq, List.getLast?_eq_some_iff]

/-- A line feed separates what is read before it from what is read after it. -/
theorem linesFrom_append_feed (line cs ds : List Char) :
    linesFrom line (cs ++ '\n' :: ds) = linesFrom line (cs ++ ['\n']) ++ lines ds := by
  -- The line that is being read grows with each character, so it is general.
  induction cs generalizing line with
  | nil => simp [linesFrom, lines]
  | cons c rest ih =>
      simp only [List.cons_append, linesFrom]
      split
      next => rw [ih, List.cons_append]
      next => exact ih _

theorem lines_append {cs : List Char} (hcs : Ended cs) (ds : List Char) :
    lines (cs ++ ds) = lines cs ++ lines ds := by
  rcases hcs with rfl | ⟨init, rfl⟩
  · rfl
  · rw [List.append_assoc]
    exact linesFrom_append_feed [] init ds

theorem linesFrom_of_isLine {cs : List Char} (hcs : IsLine cs) (line : List Char) :
    linesFrom line (cs ++ ['\n']) = [(dropReturn (cs.reverse ++ line)).reverse] := by
  induction cs generalizing line with
  | nil => simp [linesFrom]
  | cons c rest ih =>
      have hfeed := (hcs c List.mem_cons_self).1
      simp only [List.cons_append, linesFrom, hfeed, if_false]
      rw [ih fun d hd => hcs d (List.mem_cons_of_mem _ hd)]
      simp

theorem lines_of_isLine {cs : List Char} (hcs : IsLine cs) : lines (cs ++ ['\n']) = [cs] := by
  have hreturn : dropReturn cs.reverse = cs.reverse := by
    unfold dropReturn
    split
    next rest hrest =>
      have hmem : '\r' ∈ cs := List.mem_reverse.mp (hrest ▸ List.mem_cons_self)
      exact absurd rfl (hcs _ hmem).2
    next => rfl
  rw [lines, linesFrom_of_isLine hcs, List.append_nil, hreturn, List.reverse_reverse]

end Text

namespace Glsl

open Text (Ended IsLine)

theorem text_append (first second : Lines) : text (first ++ second) = text first ++ text second := by
  simp only [text, List.map_append, String.join_append]

theorem text_flatMap {α : Type} (xs : List α) (f : α → Lines) :
    text (xs.flatMap f) = String.join (xs.map fun x => text (f x)) := by
  induction xs with
  | nil => rfl
  | cons x rest ih => rw [List.flatMap_cons, text_append, ih, List.map_cons, String.join_cons]

theorem indent_append (width : Nat) (first second : Lines) :
    indent width (first ++ second) = indent width first ++ indent width second :=
  List.map_append

theorem indent_flatMap {α : Type} (width : Nat) (xs : List α) (f : α → Lines) :
    indent width (xs.flatMap f) = xs.flatMap fun x => indent width (f x) :=
  List.map_flatMap

theorem indent_indent (outer inner : Nat) (ls : Lines) :
    indent outer (indent inner ls) = indent (outer + inner) ls := by
  simp only [indent, List.map_map]
  apply List.map_congr_left
  intro l _
  by_cases hl : l = ""
  · simp [hl]
  · simp [hl, ← String.append_assoc, ← String.ofList_append]

/-- Blocks in blocks add up their indentation. -/
theorem indent_blockBy (outer width : Nat) (head : String) (body : Lines) :
    indent outer (blockBy width head body) =
      indent outer [head ++ " \x7b"] ++ indent (outer + width) body ++ indent outer ["\x7d"] := by
  rw [← indent_indent, ← indent_append, ← indent_append]
  rfl

theorem toList_text (ls : Lines) :
    (text ls).toList = ls.flatMap fun l => l.toList ++ ['\n'] := by
  simp [text, List.flatMap_map]

theorem ended_text (ls : Lines) : Ended (text ls).toList := by
  rw [toList_text]
  induction ls with
  | nil => exact Text.ended_nil
  | cons l rest ih => exact (Text.ended_concat l.toList).append ih

theorem isLine_ofList {cs : List Char} (h : IsLine cs) : IsLine (String.ofList cs).toList := by
  rwa [String.toList_ofList]

theorem isLine_append {s t : String} (hs : IsLine s.toList) (ht : IsLine t.toList) :
    IsLine (s ++ t).toList := by
  rw [String.toList_append]
  exact hs.append ht

theorem isLine_append_iff {s t : String} (ht : IsLine t.toList) :
    IsLine (s ++ t).toList ↔ IsLine s.toList := by
  refine ⟨fun h c hc => h c ?_, fun hs => isLine_append hs ht⟩
  rw [String.toList_append]
  exact List.mem_append_left _ hc

theorem isLine_oneLine {head body : String} (hhead : IsLine head.toList)
    (hbody : IsLine body.toList) : IsLine (oneLine head body).toList :=
  isLine_append (isLine_append (isLine_append hhead (isLine_ofList (by decide))) hbody)
    (isLine_ofList (by decide))

/-- Blanks in front of a line change nothing about its end. -/
theorem forall_isLine_indent {width : Nat} {ls : Lines} :
    (∀ l ∈ indent width ls, IsLine l.toList) ↔ ∀ l ∈ ls, IsLine l.toList := by
  have hblank : IsLine (List.replicate width ' ') := by
    intro c hc
    rw [(List.mem_replicate.mp hc).2]
    decide
  simp only [indent, List.forall_mem_map]
  refine forall₂_congr fun l _ => ?_
  split
  next => exact Iff.rfl
  next =>
    rw [String.toList_append, String.toList_ofList]
    exact ⟨fun h c hc => h c (List.mem_append_right _ hc), hblank.append⟩

theorem forall_isLine_blockBy {width : Nat} {head : String} {body : Lines} :
    (∀ l ∈ blockBy width head body, IsLine l.toList) ↔
      IsLine head.toList ∧ ∀ l ∈ body, IsLine l.toList := by
  have hopen : IsLine " \x7b".toList := by decide
  have hclose : IsLine "\x7d".toList := by decide
  simp only [blockBy, List.forall_mem_append, List.forall_mem_cons, isLine_append_iff hopen,
    forall_isLine_indent, hclose, List.not_mem_nil, false_implies, implies_true, and_true]

theorem forall_isLine_record {head : String} {fields : Lines} :
    (∀ l ∈ record head fields, IsLine l.toList) ↔
      IsLine head.toList ∧ ∀ l ∈ fields, IsLine l.toList := by
  have hopen : IsLine " \x7b".toList := by decide
  have hclose : IsLine "\x7d;".toList := by decide
  simp only [record, List.forall_mem_append, List.forall_mem_cons, isLine_append_iff hopen,
    forall_isLine_indent, hclose, List.not_mem_nil, false_implies, implies_true, and_true]

/-- The text of lines has these lines. -/
theorem lines_text {ls : Lines} (hls : ∀ l ∈ ls, IsLine l.toList) :
    Text.lines (text ls).toList = ls.map String.toList := by
  rw [toList_text]
  induction ls with
  | nil => rfl
  | cons l rest ih =>
      rw [List.flatMap_cons, Text.lines_append (Text.ended_concat _),
        Text.lines_of_isLine (hls l List.mem_cons_self),
        ih fun other hother => hls other (List.mem_cons_of_mem _ hother)]
      rfl

end Glsl

end SphereTrace
