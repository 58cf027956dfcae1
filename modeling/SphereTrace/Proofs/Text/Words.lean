import SphereTrace.Text.Blank

/-! # Reading words back

Words that are separated by single blanks are read back as they were, and trimming takes nothing
from a text that has blanks at neither end, and nothing but blanks from any.
-/

namespace SphereTrace.Text

/-- What stands in front of the first separator is told, whatever follows it. -/
theorem eq_of_append_cons_eq {α : Type} {a : α} {xs xs' ys ys' : List α} (hxs : a ∉ xs)
    (hxs' : a ∉ xs') (h : xs ++ a :: ys = xs' ++ a :: ys') : xs = xs' ∧ ys = ys' := by
  induction xs generalizing xs' with
  | nil =>
      cases xs' with
      | nil => exact ⟨rfl, (List.cons.inj h).2⟩
      | cons x' rest' => exact absurd ((List.cons.inj h).1 ▸ List.mem_cons_self) hxs'
  | cons x rest ih =>
      cases xs' with
      | nil => exact absurd ((List.cons.inj h).1 ▸ List.mem_cons_self) hxs
      | cons x' rest' =>
          obtain ⟨rfl, htail⟩ := List.cons.inj h
          obtain ⟨rfl, hys⟩ := ih (fun hmem => hxs (List.mem_cons_of_mem _ hmem))
            (fun hmem => hxs' (List.mem_cons_of_mem _ hmem)) htail
          exact ⟨rfl, hys⟩

theorem isBlankText_eq_false_iff {s : String} :
    isBlankText s = false ↔ ∃ c ∈ s.toList, isBlank c = false := by
  simp [isBlankText, List.all_eq_false]

/-- A word that can be read back: it is not empty and has no blank in it. -/
structure IsWord (w : List Char) : Prop where
  ne_nil : w ≠ []
  not_blank : ∀ c ∈ w, isBlank c = false

/-- No blank stands at either end of the text. -/
structure IsTrimmed (cs : List Char) : Prop where
  first : cs.head?.any isBlank = false
  last : cs.getLast?.any isBlank = false

theorem isTrimmed_cons_concat {c d : Char} (hc : isBlank c = false) (hd : isBlank d = false)
    (cs : List Char) : IsTrimmed (c :: (cs ++ [d])) where
  first := hc
  last := by
    rw [← List.cons_append, List.getLast?_concat]
    exact hd

theorem dropTail_eq_self {p : Char → Bool} {cs : List Char}
    (h : cs.getLast?.any p = false) : dropTail p cs = cs := by
  unfold dropTail
  rw [← List.head?_reverse] at h
  cases hreverse : cs.reverse with
  | nil => rw [List.reverse_eq_nil_iff.mp hreverse]; rfl
  | cons c rest =>
      rw [hreverse] at h
      have hc : p c = false := h
      rw [List.dropWhile_cons_of_neg (by simp [hc]), ← hreverse, List.reverse_reverse]

theorem dropTail_append {p : Char → Bool} {tail : List Char} (h : tail.all p = true)
    (cs : List Char) : dropTail p (cs ++ tail) = dropTail p cs := by
  rw [dropTail, dropTail, List.reverse_append, List.dropWhile_append_of_pos]
  simpa using h

theorem dropTail_concat {p : Char → Bool} {c : Char} (hc : p c = true) (cs : List Char) :
    dropTail p (cs ++ [c]) = dropTail p cs :=
  dropTail_append (by simp [hc]) cs

/-- What is dropped is the end of the text. -/
theorem exists_append_dropTail (p : Char → Bool) (cs : List Char) :
    ∃ tail, dropTail p cs ++ tail = cs ∧ tail.all p = true := by
  refine ⟨(cs.reverse.takeWhile p).reverse, ?_, ?_⟩
  · rw [dropTail, ← List.reverse_append, List.takeWhile_append_dropWhile, List.reverse_reverse]
  · rw [List.all_reverse, List.all_takeWhile]

theorem mem_dropWhile_iff {p : Char → Bool} {c : Char} (hc : p c = false) {cs : List Char} :
    c ∈ cs.dropWhile p ↔ c ∈ cs := by
  refine ⟨fun h => (List.dropWhile_sublist p).mem h, fun h => ?_⟩
  rw [← List.takeWhile_append_dropWhile (p := p) (l := cs), List.mem_append] at h
  refine h.resolve_left fun htake => ?_
  rw [List.all_eq_true.mp (List.all_takeWhile (p := p)) c htake] at hc
  cases hc

/-- What is not to be dropped is kept. -/
theorem mem_dropTail_iff {p : Char → Bool} {c : Char} (hc : p c = false) {cs : List Char} :
    c ∈ dropTail p cs ↔ c ∈ cs := by
  rw [dropTail, List.mem_reverse, mem_dropWhile_iff hc, List.mem_reverse]

theorem mem_trimChars_iff {c : Char} (hc : isBlank c = false) {cs : List Char} :
    c ∈ trimChars cs ↔ c ∈ cs := by
  rw [trimChars, mem_dropTail_iff hc, mem_dropWhile_iff hc]

theorem trimChars_eq_self {cs : List Char} (h : IsTrimmed cs) : trimChars cs = cs := by
  have hfirst : cs.dropWhile isBlank = cs := by
    cases cs with
    | nil => rfl
    | cons c rest =>
        have hc : isBlank c = false := h.first
        exact List.dropWhile_cons_of_neg (by simp [hc])
  rw [trimChars, hfirst, dropTail_eq_self h.last]

/-- Trimming takes an indentation away. -/
theorem trimChars_indent (width : Nat) (cs : List Char) :
    trimChars (List.replicate width ' ' ++ cs) = trimChars cs := by
  induction width with
  | zero => rfl
  | succ width ih =>
      rw [← ih]
      simp only [trimChars, List.replicate_succ, List.cons_append]
      rw [List.dropWhile_cons_of_pos (by decide)]

theorem wordsFrom_append {w : List Char} (hw : ∀ c ∈ w, isBlank c = false)
    (word rest : List Char) : wordsFrom word (w ++ rest) = wordsFrom (w.reverse ++ word) rest := by
  induction w generalizing word with
  | nil => rfl
  | cons c others ih =>
      have hc := hw c List.mem_cons_self
      simp only [List.cons_append, wordsFrom, hc, Bool.false_eq_true, if_false]
      rw [ih fun d hd => hw d (List.mem_cons_of_mem _ hd)]
      simp

theorem words_append_blank {w : List Char} (hw : IsWord w) (rest : List Char) :
    words (w ++ ' ' :: rest) = w :: words rest := by
  have hblank : isBlank ' ' = true := by decide
  simp [words, wordsFrom_append hw.not_blank, wordsFrom, hblank, hw.ne_nil]

theorem words_of_isWord {w : List Char} (hw : IsWord w) : words w = [w] := by
  have happend := wordsFrom_append hw.not_blank [] []
  rw [List.append_nil] at happend
  simp [words, happend, wordsFrom, hw.ne_nil]

end SphereTrace.Text
