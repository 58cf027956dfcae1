import SphereTrace.Proofs.Text.Legible

/-! # Reading arguments back

The arguments of a call are separated by commas, but so are the components of a vector among them.
A reader that counts open parentheses tells the two apart, and gives back arguments that are written
between blanks.
-/

namespace SphereTrace.Text

/-- Splits at commas outside of parentheses: `word` is what has been read of the current argument,
backwards, and `depth` counts the parentheses that are open. -/
def splitArguments (depth : Nat) (word : List Char) : List Char → List (List Char)
  | [] => [word.reverse]
  | c :: rest =>
    if c = ',' ∧ depth = 0 then word.reverse :: splitArguments 0 [] rest
    else if c = '(' then splitArguments (depth + 1) (c :: word) rest
    else if c = ')' then splitArguments (depth - 1) (c :: word) rest
    else splitArguments depth (c :: word) rest

def readArguments (cs : List Char) : List (List Char) :=
  (splitArguments 0 [] cs).map trimChars

/-- The text comes back where it is read as one of several arguments. -/
structure IsArgument (cs : List Char) : Prop where
  line : IsLine cs
  trimmed : IsTrimmed cs
  whole : ∀ word rest,
    splitArguments 0 word (cs ++ rest) = splitArguments 0 (cs.reverse ++ word) rest

/-- Neither a comma nor a parenthesis. -/
def IsPlain (c : Char) : Prop :=
  c ≠ ',' ∧ c ≠ '(' ∧ c ≠ ')'

theorem splitArguments_append_plain {cs : List Char} (hcs : ∀ c ∈ cs, IsPlain c)
    (depth : Nat) (word rest : List Char) :
    splitArguments depth word (cs ++ rest) = splitArguments depth (cs.reverse ++ word) rest := by
  induction cs generalizing word with
  | nil => rfl
  | cons c others ih =>
      obtain ⟨hcomma, hopen, hclose⟩ := hcs c List.mem_cons_self
      simp only [List.cons_append, splitArguments, hcomma, hopen, hclose, false_and, if_false]
      rw [ih fun d hd => hcs d (List.mem_cons_of_mem _ hd)]
      simp

/-- Inside of parentheses commas do not separate. -/
theorem splitArguments_append_inner {cs : List Char} (hcs : ∀ c ∈ cs, c ≠ '(' ∧ c ≠ ')')
    (word rest : List Char) :
    splitArguments 1 word (cs ++ rest) = splitArguments 1 (cs.reverse ++ word) rest := by
  induction cs generalizing word with
  | nil => rfl
  | cons c others ih =>
      obtain ⟨hopen, hclose⟩ := hcs c List.mem_cons_self
      simp only [List.cons_append, splitArguments, Nat.one_ne_zero, and_false, hopen, hclose,
        if_false]
      rw [ih fun d hd => hcs d (List.mem_cons_of_mem _ hd)]
      simp

theorem isPlain_of_isLegible {c : Char} (h : isLegible c = true) : IsPlain c := by
  obtain ⟨_, hcomma, _, hopen, hclose⟩ := isLegible_iff.mp h
  exact ⟨hcomma, hopen, hclose⟩

theorem isArgument_of_legible {name : String} (h : Legible name) : IsArgument name.toList where
  line := h.isLine
  trimmed := h.isTrimmed
  whole := splitArguments_append_plain (fun c hc => isPlain_of_isLegible (h c hc)) 0

/-- A constructor with its components. -/
theorem isArgument_constructor {name : String} (hname : Legible name) (hne : name ≠ "")
    {inner : List Char} (hline : IsLine inner) (hinner : ∀ c ∈ inner, c ≠ '(' ∧ c ≠ ')') :
    IsArgument (name.toList ++ '(' :: (inner ++ [')'])) where
  line := by
    intro c hc
    simp only [List.mem_append, List.mem_cons, List.not_mem_nil, or_false] at hc
    rcases hc with hc | rfl | hc | rfl
    · exact hname.isLine c hc
    · decide
    · exact hline c hc
    · decide
  trimmed := by
    constructor
    · have hword := hname.isWord hne
      cases hlist : name.toList with
      | nil => exact absurd hlist hword.ne_nil
      | cons d rest => exact hword.not_blank d (hlist ▸ List.mem_cons_self)
    · rw [← List.cons_append, ← List.append_assoc, List.getLast?_concat]
      decide
  whole := by
    intro word rest
    rw [List.append_assoc,
      splitArguments_append_plain (fun c hc => isPlain_of_isLegible (hname c hc))]
    have hopen : ∀ word rest : List Char,
        splitArguments 0 word ('(' :: rest) = splitArguments 1 ('(' :: word) rest :=
      fun _ _ => rfl
    have hclose : ∀ word rest : List Char,
        splitArguments 1 word (')' :: rest) = splitArguments 0 (')' :: word) rest :=
      fun _ _ => rfl
    rw [List.cons_append, hopen, List.append_assoc, splitArguments_append_inner hinner,
      List.singleton_append, hclose]
    simp

theorem trimChars_concat_blank {cs : List Char} (h : IsTrimmed cs) :
    trimChars (' ' :: (cs ++ [' '])) = cs := by
  have hblank : isBlank ' ' = true := by decide
  rw [trimChars, List.dropWhile_cons_of_pos hblank]
  cases cs with
  | nil => rfl
  | cons c rest =>
      have hc : isBlank c = false := h.first
      rw [List.cons_append, List.dropWhile_cons_of_neg (by simp [hc]), ← List.cons_append,
        dropTail_concat hblank, dropTail_eq_self h.last]

theorem trimChars_cons_blank {cs : List Char} (h : IsTrimmed cs) : trimChars (' ' :: cs) = cs :=
  (trimChars_indent 1 cs).trans (trimChars_eq_self h)

/-- Arguments that are written out between blanks are read back. -/
theorem readArguments_intercalate {first : List Char} {others : List (List Char)}
    (h : ∀ cs ∈ first :: others, IsArgument cs) :
    readArguments (' ' :: ([',', ' '].intercalate (first :: others) ++ [' '])) =
      first :: others := by
  have hblank : ∀ rest : List Char,
      splitArguments 0 [] (' ' :: rest) = splitArguments 0 [' '] rest := fun _ => rfl
  rw [readArguments, hblank]
  -- The blank in front of an argument has been read when the argument starts.
  induction others generalizing first with
  | nil =>
      have hfirst := h first List.mem_cons_self
      rw [List.intercalate_singleton, hfirst.whole]
      simp [splitArguments, trimChars_concat_blank hfirst.trimmed]
  | cons second others ih =>
      have hfirst := h first List.mem_cons_self
      have hcomma : ∀ word rest : List Char,
          splitArguments 0 word (',' :: rest) = word.reverse :: splitArguments 0 [] rest :=
        fun _ _ => rfl
      rw [List.intercalate_cons_cons, List.append_assoc, List.append_assoc, hfirst.whole,
        List.cons_append, hcomma, List.cons_append, List.nil_append, hblank, List.map_cons,
        ih fun cs hcs => h cs (List.mem_cons_of_mem _ hcs)]
      simp [trimChars_cons_blank hfirst.trimmed]

end SphereTrace.Text
