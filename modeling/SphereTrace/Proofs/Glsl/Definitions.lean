import Mathlib.Data.List.Induction
import SphereTrace.Proofs.Text.Arguments

/-! # Reading definitions back

The functions that a text defines are read off it: a head stands in front of every brace that opens
outside of all others. How deep braces are nested and how lines are indented does not matter, and a
text that closes all its braces can be put in front of any other without changing what either
defines. Comments are not told apart from source.
-/

namespace SphereTrace.Glsl

open Text (IsTrimmed)

/-- What a reader has found in a text, and where it stands then: the heads, the number of braces that
are open, and what may be the start of a further head, backwards. -/
structure Reading where
  heads : List (List Char)
  depth : Nat
  head : List Char
  deriving DecidableEq

/-- Reads on from such a place. A semicolon outside of braces ends something other than a head. -/
def readFrom (depth : Nat) (head : List Char) : List Char → Reading
  | [] => ⟨[], depth, head⟩
  | c :: rest =>
    if c = '\x7b' then
      let behind := readFrom (depth + 1) [] rest
      if depth = 0 then
        { behind with heads := Text.dropTail Text.isBlank head.reverse :: behind.heads }
      else behind
    else if c = '\x7d' ∧ depth ≠ 0 then readFrom (depth - 1) [] rest
    else if depth ≠ 0 ∨ c = ';' ∨ (head = [] ∧ Text.isBlank c = true) then readFrom depth [] rest
    else readFrom depth (c :: head) rest

/-- The head of a function. A parameter is a type and a name. -/
structure Signature where
  result : String
  name : String
  parameters : List (String × String)
  deriving DecidableEq

def Signature.types (s : Signature) : List String :=
  s.parameters.map Prod.fst

/-- The last two words are type and name; what stands in front of them are qualifiers. -/
def readParameter? (cs : List Char) : Option (String × String) :=
  match (Text.words cs).reverse with
  | name :: type :: _ => some (String.ofList type, String.ofList name)
  | _ => none

def readParameters? (cs : List Char) : Option (List (String × String)) :=
  if Text.words cs = [] then some [] else (Text.readArguments cs).mapM readParameter?

/-- Reads a head: type and name of the function, and its parameters in parentheses. -/
def readSignature? (head : List Char) : Option Signature :=
  let front := head.takeWhile (· != '(')
  match Text.words front,
    readParameters? ((head.drop (front.length + 1)).takeWhile (· != ')')) with
  | [result, name], some parameters => some ⟨String.ofList result, String.ofList name, parameters⟩
  | _, _ => none

/-- The functions that a text defines, in order: all its heads can be read, and neither a brace nor a
head is left open. -/
def readDefinitions? (source : String) : Option (List Signature) :=
  let found := readFrom 0 [] source.toList
  if found.depth = 0 ∧ found.head = [] then found.heads.mapM readSignature? else none

theorem readFrom_append (depth : Nat) (head cs ds : List Char) :
    readFrom depth head (cs ++ ds) =
      let front := readFrom depth head cs
      let behind := readFrom front.depth front.head ds
      { behind with heads := front.heads ++ behind.heads } := by
  induction cs generalizing depth head with
  | nil => rfl
  | cons c rest ih =>
      simp only [List.cons_append, readFrom]
      split
      next => split <;> simp [ih]
      next =>
        split
        next => exact ih _ _
        next => split <;> exact ih _ _

/-- The text has these heads and nothing is left open behind them. -/
def HasHeads (cs : List Char) (heads : List (List Char)) : Prop :=
  readFrom 0 [] cs = ⟨heads, 0, []⟩

instance (cs : List Char) (heads : List (List Char)) : Decidable (HasHeads cs heads) :=
  inferInstanceAs (Decidable (_ = _))

section HasHeads

variable {cs ds : List Char} {heads others : List (List Char)}

theorem hasHeads_nil : HasHeads [] [] := rfl

theorem HasHeads.append (hcs : HasHeads cs heads) (hds : HasHeads ds others) :
    HasHeads (cs ++ ds) (heads ++ others) := by
  unfold HasHeads at *
  simp only [readFrom_append, hcs, hds]

/-- Blanks at the end are no part of a head. -/
theorem HasHeads.of_concat_blank {c : Char} (hc : Text.isBlank c = true)
    (h : HasHeads (cs ++ [c]) heads) : HasHeads cs heads := by
  have hne : ∀ d, Text.isBlank d = false → c ≠ d := by
    rintro d hd rfl
    rw [hc] at hd
    cases hd
  unfold HasHeads at *
  rw [readFrom_append] at h
  generalize readFrom 0 [] cs = front at h ⊢
  obtain ⟨found, depth, head⟩ := front
  simp only [readFrom, hne _ (by decide : Text.isBlank '\x7b' = false),
    hne _ (by decide : Text.isBlank '\x7d' = false), hne _ (by decide : Text.isBlank ';' = false),
    hc, false_and, if_false, false_or, and_true] at h
  -- Had a head begun, it would go on with the blank.
  split at h <;> simp_all

theorem HasHeads.dropTail (h : HasHeads cs heads) :
    HasHeads (Text.dropTail Text.isBlank cs) heads := by
  induction cs using List.reverseRecOn with
  | nil => exact h
  | append_singleton init c ih =>
      by_cases hc : Text.isBlank c = true
      · rw [Text.dropTail_concat hc]
        exact ih (h.of_concat_blank hc)
      · rw [Text.dropTail_eq_self (by simpa using hc)]
        exact h

end HasHeads

/-- Inside of braces a reader passes over the text: what opens in it is closed in it. -/
def Balanced (cs : List Char) : Prop :=
  ∀ depth rest, readFrom (depth + 1) [] (cs ++ rest) = readFrom (depth + 1) [] rest

/-- Neither an open nor a closed brace. -/
def isNeutral (c : Char) : Bool :=
  c != '\x7b' && c != '\x7d'

def Neutral (l : String) : Prop :=
  l.toList.all isNeutral = true

theorem neutral_ofList {cs : List Char} (h : cs.all isNeutral = true) :
    Neutral (String.ofList cs) := by
  rw [Neutral, String.toList_ofList]
  exact h

theorem Neutral.append {first second : String} (hfirst : Neutral first) (hsecond : Neutral second) :
    Neutral (first ++ second) := by
  rw [Neutral, String.toList_append, List.all_append, hfirst, hsecond]
  rfl

section Balanced

variable {cs ds : List Char} {l : String}

theorem Balanced.append (hcs : Balanced cs) (hds : Balanced ds) : Balanced (cs ++ ds) := by
  intro depth rest
  rw [List.append_assoc, hcs, hds]

theorem Balanced.braces (hcs : Balanced cs) : Balanced ('\x7b' :: (cs ++ ['\x7d'])) := by
  intro depth rest
  have hopen : ∀ ds, readFrom (depth + 1) [] ('\x7b' :: ds) = readFrom (depth + 2) [] ds :=
    fun _ => rfl
  have hclose : readFrom (depth + 2) [] ('\x7d' :: rest) = readFrom (depth + 1) [] rest := rfl
  rw [List.cons_append, List.append_assoc, hopen, hcs, List.singleton_append, hclose]

theorem balanced_of_neutral (hcs : cs.all isNeutral = true) : Balanced cs := by
  intro depth rest
  induction cs with
  | nil => rfl
  | cons c others ih =>
      simp only [List.all_cons, isNeutral, Bool.and_eq_true, bne_iff_ne] at hcs
      simp only [List.cons_append, readFrom, hcs.1.1, hcs.1.2, false_and, if_false]
      rw [if_pos (.inl (Nat.succ_ne_zero depth))]
      exact ih hcs.2

theorem Neutral.balanced (hl : Neutral l) : Balanced l.toList :=
  balanced_of_neutral hl

/-- A line that is indented has neutral characters in front of it. -/
theorem toList_text_indent (width : Nat) (l : String) :
    ∃ blanks, Balanced blanks ∧
      (text (indent width [l])).toList = blanks ++ (l.toList ++ ['\n']) := by
  by_cases hl : l = ""
  · refine ⟨[], fun _ _ => rfl, ?_⟩
    simp [toList_text, indent, hl]
  · refine ⟨List.replicate width ' ', ?_, ?_⟩
    · apply balanced_of_neutral
      rw [List.all_replicate]
      simp [isNeutral]
    · simp [toList_text, indent, hl]

/-- Lines in which every brace that opens is closed again, wherever they are moved. -/
structure Nested (ls : Lines) : Prop where
  balanced : ∀ width, Balanced (text (indent width ls)).toList

/-- What ends the braces around a text. -/
def Closing (cs : List Char) : Prop :=
  ∀ inner, Balanced inner → Balanced ('\x7b' :: (inner ++ cs))

end Balanced

section Nested

variable {cs : List Char} {l head : String} {first second body : Lines} {parts : List (String × Lines)}

theorem nested_nil : Nested [] where
  balanced := fun _ _ _ => rfl

theorem Nested.append (hfirst : Nested first) (hsecond : Nested second) :
    Nested (first ++ second) where
  balanced := by
    intro width
    rw [indent_append, text_append, String.toList_append]
    exact (hfirst.balanced width).append (hsecond.balanced width)

theorem Nested.cons (hl : Neutral l) (h : Nested body) : Nested (l :: body) := by
  have hline : Nested [l] := by
    constructor
    intro width
    obtain ⟨blanks, hblanks, htext⟩ := toList_text_indent width l
    rw [htext]
    exact hblanks.append (hl.balanced.append (balanced_of_neutral (by decide)))
  exact hline.append h

/-- A line that is given by its characters. -/
theorem Nested.line {cs : List Char} (hcs : cs.all isNeutral = true) (h : Nested body) :
    Nested (String.ofList cs :: body) :=
  .cons (neutral_ofList hcs) h

/-- A line, a body that is indented once more, and what follows them. -/
theorem toList_text_opening (width : Nat) (l : String) (body rest : Lines) :
    (text (indent width (l :: indent 2 body ++ rest))).toList =
      (text (indent width [l])).toList ++ ((text (indent (width + 2) body)).toList ++
        (text (indent width rest)).toList) := by
  rw [← List.singleton_append, List.append_assoc, indent_append, indent_append, indent_indent,
    text_append, text_append, String.toList_append, String.toList_append]

/-- A brace, a body, and what ends the braces. -/
theorem Nested.opens (hbody : Nested body) (hend : Closing cs) (width : Nat) :
    Balanced ('\x7b' :: '\n' :: ((text (indent width body)).toList ++ cs)) := by
  have hfeed : Balanced ['\n'] := balanced_of_neutral (by decide)
  exact hend _ (hfeed.append (hbody.balanced width))

theorem Neutral.opens (hhead : Neutral head) (hbody : Nested body) (hend : Closing cs)
    (width : Nat) :
    Balanced ((text (indent width [head ++ " \x7b"])).toList ++
      ((text (indent (width + 2) body)).toList ++ cs)) := by
  obtain ⟨blanks, hblanks, htext⟩ := toList_text_indent width (head ++ " \x7b")
  have hblank : Balanced [' '] := balanced_of_neutral (by decide)
  rw [htext]
  simpa using
    (hblanks.append (hhead.balanced.append hblank)).append (hbody.opens hend (width + 2))

theorem closing_brace (width : Nat) : Closing (text (indent width ["\x7d"])).toList := by
  obtain ⟨blanks, hblanks, htext⟩ := toList_text_indent width "\x7d"
  have hfeed : Balanced ['\n'] := balanced_of_neutral (by decide)
  intro inner hinner
  rw [htext]
  simpa using (hinner.append hblanks).braces.append hfeed

theorem Nested.block (hhead : Neutral head) (hbody : Nested body) :
    Nested (block head body) where
  balanced := by
    intro width
    rw [Glsl.block, blockBy, toList_text_opening]
    exact hhead.opens hbody (closing_brace width) width

/-- The line that ends one block of a chain opens the next one. -/
theorem closing_chainRest (h : ∀ part ∈ parts, Neutral part.1 ∧ Nested part.2) (width : Nat) :
    Closing (text (indent width (chainRest parts))).toList := by
  induction parts with
  | nil => exact closing_brace width
  | cons part others ih =>
      obtain ⟨head, body⟩ := part
      obtain ⟨⟨hhead, hbody⟩, hothers⟩ := List.forall_mem_cons.mp h
      obtain ⟨blanks, hblanks, htext⟩ := toList_text_indent width ("\x7d " ++ head ++ " \x7b")
      have hblank : Balanced [' '] := balanced_of_neutral (by decide)
      intro inner hinner
      rw [chainRest, toList_text_opening, htext]
      simpa using ((hinner.append hblanks).braces.append
        (hblank.append (hhead.balanced.append hblank))).append
          (hbody.opens (ih hothers) (width + 2))

theorem Nested.chain (h : ∀ part ∈ parts, Neutral part.1 ∧ Nested part.2) :
    Nested (chain parts) := by
  cases parts with
  | nil => exact nested_nil
  | cons part others =>
      obtain ⟨⟨hhead, hbody⟩, hothers⟩ := List.forall_mem_cons.mp h
      constructor
      intro width
      rw [Glsl.chain, toList_text_opening]
      exact hhead.opens hbody (closing_chainRest hothers width) width

end Nested

/-- The text is read as the head of a function, and as one with this signature. -/
def IsHead (head : List Char) (s : Signature) : Prop :=
  readFrom 0 [] (head ++ [' ', '\x7b']) = ⟨[head], 1, []⟩ ∧ readSignature? head = some s

instance (head : List Char) (s : Signature) : Decidable (IsHead head s) :=
  inferInstanceAs (Decidable (_ ∧ _))

theorem isHead_ofList {cs : List Char} {s : Signature} (h : IsHead cs s) :
    IsHead (String.ofList cs).toList s := by
  rw [String.toList_ofList]
  exact h

/-- The text defines these functions, in this order. -/
def Defines (source : String) (signatures : List Signature) : Prop :=
  readDefinitions? source = some signatures

/-- The functions that a text defines, if it can be read at all. -/
def definitions (source : String) : List Signature :=
  (readDefinitions? source).getD []

instance (source : String) (signatures : List Signature) : Decidable (Defines source signatures) :=
  inferInstanceAs (Decidable (_ = _))

section Defines

variable {source other head : String} {signatures others : List Signature} {s : Signature}

theorem defines_iff : Defines source signatures ↔
    ∃ heads, HasHeads source.toList heads ∧ heads.mapM readSignature? = some signatures := by
  unfold Defines readDefinitions? HasHeads
  generalize readFrom 0 [] source.toList = found
  obtain ⟨heads, depth, head⟩ := found
  constructor
  · intro h
    dsimp only at h
    split at h
    next hend =>
      obtain ⟨rfl, rfl⟩ := hend
      exact ⟨heads, rfl, h⟩
    next => cases h
  · rintro ⟨_, heq, h⟩
    cases heq
    exact h

theorem Defines.definitions_eq (h : Defines source signatures) :
    definitions source = signatures := by
  rw [definitions, h, Option.getD_some]

theorem Defines.append (hsource : Defines source signatures) (hother : Defines other others) :
    Defines (source ++ other) (signatures ++ others) := by
  obtain ⟨heads, hheads, hread⟩ := defines_iff.mp hsource
  obtain ⟨rest, hrest, hreadRest⟩ := defines_iff.mp hother
  refine defines_iff.mpr ⟨heads ++ rest, ?_, ?_⟩
  · rw [String.toList_append]
    exact hheads.append hrest
  · rw [List.mapM_append, hread, hreadRest]
    rfl

theorem Defines.trimEnd (h : Defines source signatures) :
    Defines (Text.trimEnd source) signatures := by
  obtain ⟨heads, hheads, hread⟩ := defines_iff.mp h
  refine defines_iff.mpr ⟨heads, ?_, hread⟩
  rw [Text.trimEnd, String.toList_ofList]
  exact hheads.dropTail

/-- Texts after one another define what each of them defines. -/
theorem defines_join {texts : List String} {f : String → List Signature}
    (h : ∀ text ∈ texts, Defines text (f text)) :
    Defines (String.join texts) (texts.flatMap f) := by
  induction texts with
  | nil => exact defines_iff.mpr ⟨[], hasHeads_nil, rfl⟩
  | cons text rest ih =>
      rw [String.join_cons, List.flatMap_cons]
      apply (h text List.mem_cons_self).append
      exact ih fun other hother => h other (List.mem_cons_of_mem _ hother)

/-- A head in front of braces. -/
theorem IsHead.defines {head inner : List Char} (hhead : IsHead head s) (hinner : Balanced inner) :
    Defines (String.ofList (head ++ ' ' :: '\x7b' :: (inner ++ ['\x7d', '\n']))) [s] := by
  refine defines_iff.mpr ⟨[head], ?_, ?_⟩
  · have happend := readFrom_append 0 [] (head ++ [' ', '\x7b']) (inner ++ ['\x7d', '\n'])
    have hclose : readFrom 1 [] (inner ++ ['\x7d', '\n']) = ⟨[], 0, []⟩ := hinner 0 _
    simp only [hhead.1, hclose] at happend
    rw [HasHeads, String.toList_ofList]
    simpa using happend
  · rw [List.mapM_cons, hhead.2]
    rfl

/-- An empty line defines nothing. -/
theorem defines_empty_line : Defines (text [""]) [] := by
  decide

theorem Defines.empty_line_cons {ls : Lines} (h : Defines (text ls) signatures) :
    Defines (text ("" :: ls)) signatures := by
  have htext : text ("" :: ls) = text [""] ++ text ls := text_append [""] ls
  rw [htext]
  exact defines_empty_line.append h

theorem Defines.oneLine_cons {body : String} {ls : Lines} (hhead : IsHead head.toList s)
    (hbody : Neutral body) (h : Defines (text ls) signatures) :
    Defines (text (oneLine head body :: ls)) (s :: signatures) := by
  have hblank : Balanced [' '] := balanced_of_neutral (by decide)
  have hline := hhead.defines ((hblank.append hbody.balanced).append hblank)
  have htext : text (oneLine head body :: ls) = String.ofList (head.toList ++ ' ' :: '\x7b' ::
      (([' '] ++ body.toList ++ [' ']) ++ ['\x7d', '\n'])) ++ text ls := by
    apply String.toList_inj.mp
    simp [toList_text, oneLine]
  rw [htext]
  exact hline.append h

theorem defines_block {body : Lines} (hhead : IsHead head.toList s) (hbody : Nested body) :
    Defines (text (block head body)) [s] := by
  have hfeed : Balanced ['\n'] := balanced_of_neutral (by decide)
  have hinner := hhead.defines (hfeed.append (hbody.balanced 2))
  have htext : text (block head body) = String.ofList (head.toList ++ ' ' :: '\x7b' ::
      ((['\n'] ++ (text (indent 2 body)).toList) ++ ['\x7d', '\n'])) := by
    apply String.toList_inj.mp
    simp [toList_text, block, blockBy]
  rw [htext]
  exact hinner

theorem Defines.block_append {body ls : Lines} (hhead : IsHead head.toList s)
    (hbody : Nested body) (h : Defines (text ls) signatures) :
    Defines (text (block head body ++ ls)) (s :: signatures) := by
  rw [text_append]
  exact (defines_block hhead hbody).append h

end Defines

end SphereTrace.Glsl
