import Mathlib.Data.List.Induction
import Mathlib.Logic.Function.Basic
import SphereTrace.Proofs.Uniform.Recorder

/-! # Locations of declared names

A source is read line by line. A name that is declared again gets one more entry in the list of
names, while in the table of locations its later location replaces the earlier one; so some entries
of the list can never be looked up. Every location that is looked up still stands for the name that
it was looked up by, which is what the record of a program relies on.
-/

namespace SphereTrace.Recorder

/-- The words of a line, without the semicolons at its end. -/
def lineWords (line : List Char) : List (List Char) :=
  Text.words (Text.dropTail (· == ';') (Text.trimChars line))

/-- The line starts with `uniform` and has a third word. -/
def IsDeclaration (line : List Char) : Prop :=
  (lineWords line)[0]? = some "uniform".toList ∧ 2 < (lineWords line).length

instance : DecidablePred IsDeclaration := fun line =>
  inferInstanceAs (Decidable ((lineWords line)[0]? = some "uniform".toList ∧ _))

/-- The line starts with `uniform` and its third word is the name. -/
def Declares (line : List Char) (name : String) : Prop :=
  (lineWords line)[0]? = some "uniform".toList ∧ (lineWords line)[2]? = some name.toList

variable {name : String} {line : List Char} {lines : List (List Char)} {place : Nat}

theorem declaredName?_eq_some_iff : declaredName? line = some name ↔ Declares line name := by
  unfold declaredName? Declares lineWords
  -- The words are all that matters, and `uniform` is a word like any other.
  generalize Text.words _ = words
  generalize "uniform".toList = keyword
  rcases words with _ | ⟨first, _ | ⟨second, _ | ⟨third, rest⟩⟩⟩ <;>
    simp [← String.toList_inj]

theorem isDeclaration_iff : IsDeclaration line ↔ ∃ name, Declares line name := by
  constructor
  · rintro ⟨hfirst, hthird⟩
    exact ⟨String.ofList (lineWords line)[2], hfirst, by simp [hthird]⟩
  · rintro ⟨name, hfirst, hthird⟩
    exact ⟨hfirst, (List.getElem?_eq_some_iff.mp hthird).1⟩

theorem isSome_declaredName? : (declaredName? line).isSome = decide (IsDeclaration line) := by
  rw [Bool.eq_iff_iff, Option.isSome_iff_exists, decide_eq_true_eq, isDeclaration_iff]
  simp only [declaredName?_eq_some_iff]

theorem lastPlace?_concat (name added : String) (names : List String) :
    lastPlace? name (names ++ [added]) =
      if added = name then some names.length else lastPlace? name names := by
  induction names with
  | nil => rfl
  | cons first rest ih =>
      rw [List.cons_append, lastPlace?, ih]
      by_cases hadded : added = name
      · simp [hadded]
      · simp [hadded, lastPlace?]

/-- The last line that declares the name has so many declarations in front of it. -/
def LastDeclaredAt (lines : List (List Char)) (name : String) (place : Nat) : Prop :=
  ∃ before line after, lines = before ++ line :: after ∧ Declares line name ∧
    (∀ later ∈ after, ¬ Declares later name) ∧
    before.countP (fun earlier => IsDeclaration earlier) = place

theorem length_declared (lines : List (List Char)) :
    (lines.filterMap declaredName?).length = lines.countP fun line => IsDeclaration line := by
  simp only [List.length_filterMap_eq_countP, isSome_declaredName?]

/-- Which lines settle where a name is looked up. -/
theorem lastPlace?_declared_iff :
    lastPlace? name (lines.filterMap declaredName?) = some place ↔
      LastDeclaredAt lines name place := by
  rw [lastPlace?_eq_some_iff]
  constructor
  · rintro ⟨earlier, later, hnames, hlater, rfl⟩
    obtain ⟨before, rest, rfl, rfl, hrest⟩ := List.filterMap_eq_append_iff.mp hnames
    obtain ⟨between, line, after, rfl, hbetween, hline, rfl⟩ := List.filterMap_eq_cons_iff.mp hrest
    refine ⟨before ++ between, line, after, by simp, declaredName?_eq_some_iff.mp hline, ?_, ?_⟩
    · intro other hother hdeclares
      exact hlater (List.mem_filterMap.mpr ⟨other, hother, declaredName?_eq_some_iff.mpr hdeclares⟩)
    · -- The lines in between declare nothing.
      rw [← length_declared, List.filterMap_append, List.filterMap_eq_nil_iff.mpr hbetween,
        List.append_nil]
  · rintro ⟨before, line, after, rfl, hline, hafter, rfl⟩
    refine ⟨before.filterMap declaredName?, after.filterMap declaredName?, ?_, ?_,
      length_declared before⟩
    · rw [List.filterMap_append, List.filterMap_cons, declaredName?_eq_some_iff.mpr hline]
    · intro hmem
      obtain ⟨other, hother, hname⟩ := List.mem_filterMap.mp hmem
      exact hafter other hother (declaredName?_eq_some_iff.mp hname)

/-- What has been read of a source: the name at each location, and the location of each name. -/
structure Scan where
  names : List String := []
  table : Locations := fun _ => none

/-- Goes on by one line. The name that it declares takes the next location, and the table forgets
the one that the name had. -/
def Scan.read (s : Scan) (line : List Char) : Scan :=
  match declaredName? line with
  | some name =>
    { names := s.names ++ [name]
      table := Function.update s.table name (some ⟨.ofNat s.names.length⟩) }
  | none => s

/-- The table never differs from a search for the last entry of a name in the list. -/
theorem foldl_read (lines : List (List Char)) :
    lines.foldl Scan.read {} =
      ⟨lines.filterMap declaredName?, locate ⟨lines.filterMap declaredName?, []⟩⟩ := by
  induction lines using List.reverseRecOn with
  | nil => rfl
  | append_singleton lines line ih =>
      rw [List.foldl_append, ih, List.filterMap_append]
      cases hline : declaredName? line with
      | none => simp [Scan.read, hline]
      | some name =>
          have htable : locate ⟨lines.filterMap declaredName? ++ [name], []⟩ =
              Function.update (locate ⟨lines.filterMap declaredName?, []⟩) name
                (some ⟨.ofNat (lines.filterMap declaredName?).length⟩) := by
            funext other
            by_cases hother : name = other
            · simp [locate, lastPlace?_concat, hother]
            · simp [locate, lastPlace?_concat, hother, Ne.symm hother]
          simp [Scan.read, hline, htable]

/-- Writes to locations that were looked up are told by the names that they were looked up by. -/
theorem takeWrites_foldl_record {r : Recorder} (hfits : r.Fits) (hempty : r.writes = [])
    {calls : List (String × Write)}
    (hcalls : ∀ call ∈ calls, r.locate call.1 = some call.2.location) :
    ((calls.map Prod.snd).foldl (fun reached w => reached.record [w]) r).takeWrites.1 =
      calls.map fun call => (call.1, call.2.value) := by
  rw [foldl_record, takeWrites_record hempty, List.map_map]
  apply List.map_congr_left
  intro call hcall
  rw [Function.comp_apply, nameAt_locate hfits (hcalls call hcall)]

end SphereTrace.Recorder
