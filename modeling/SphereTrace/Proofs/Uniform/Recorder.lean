import SphereTrace.Proofs.Text.Lines
import SphereTrace.Uniform.Recorder

/-! # What a recording program knows

A recording program gives a location to every name that its source declares. As long as there are
no more names than locations have numbers for, it never gives the same one to two names, and its
record tells by the location alone which uniform was written.
-/

namespace SphereTrace.Recorder

open Text (Ended)

variable {r : Recorder} {name other : String} {names : List String}

theorem lastPlace?_eq_none_iff : lastPlace? name names = none ↔ name ∉ names := by
  induction names with
  | nil => simp [lastPlace?]
  | cons first rest ih =>
      cases hrest : lastPlace? name rest with
      | some place =>
          have hmem : name ∈ rest := by simpa [hrest] using ih
          simp [lastPlace?, hrest, hmem]
      | none => simp [lastPlace?, hrest, ih.mp hrest, eq_comm]

/-- The last place of a name is the one that has it nowhere behind. -/
theorem lastPlace?_eq_some_iff {place : Nat} :
    lastPlace? name names = some place ↔
      ∃ before after, names = before ++ name :: after ∧ name ∉ after ∧ before.length = place := by
  constructor
  · intro h
    induction names generalizing place with
    | nil => cases h
    | cons first rest ih =>
        unfold lastPlace? at h
        split at h
        next later hlater =>
          cases h
          obtain ⟨before, after, rfl, hafter, rfl⟩ := ih hlater
          exact ⟨first :: before, after, rfl, hafter, rfl⟩
        next hnone =>
          split at h
          next hfirst =>
            cases h
            exact ⟨[], rest, by rw [hfirst]; rfl, lastPlace?_eq_none_iff.mp hnone, rfl⟩
          next => cases h
  · rintro ⟨before, after, rfl, hafter, rfl⟩
    induction before with
    | nil => simp [lastPlace?, lastPlace?_eq_none_iff.mpr hafter]
    | cons first rest ih => simp [lastPlace?, ih]

theorem getElem?_of_lastPlace? {place : Nat} (h : lastPlace? name names = some place) :
    names[place]? = some name := by
  obtain ⟨before, after, rfl, _, rfl⟩ := lastPlace?_eq_some_iff.mp h
  simp

theorem isSome_lastPlace? (h : name ∈ names) : (lastPlace? name names).isSome :=
  Option.isSome_iff_ne_none.mpr fun hnone => lastPlace?_eq_none_iff.mp hnone h

theorem locate_eq_some_iff {location : Location} :
    r.locate name = some location ↔
      ∃ place, lastPlace? name r.names = some place ∧ location = ⟨.ofNat place⟩ := by
  unfold locate
  cases lastPlace? name r.names with
  | none => simp
  | some place => simp [eq_comm]

theorem isSome_locate (h : name ∈ r.names) : (r.locate name).isSome := by
  obtain ⟨place, hplace⟩ := Option.isSome_iff_exists.mp (isSome_lastPlace? h)
  exact Option.isSome_iff_exists.mpr ⟨_, locate_eq_some_iff.mpr ⟨place, hplace, rfl⟩⟩

/-- The places of all names are numbers of 32 bits that are not negative. -/
def Fits (r : Recorder) : Prop :=
  r.names.length ≤ 2147483648

instance (r : Recorder) : Decidable r.Fits :=
  inferInstanceAs (Decidable (_ ≤ _))

theorem Fits.toInt_ofNat {place : Nat} (hfits : r.Fits)
    (h : lastPlace? name r.names = some place) : (Int32.ofNat place).toInt = place := by
  obtain ⟨hplace, _⟩ := List.getElem?_eq_some_iff.mp (getElem?_of_lastPlace? h)
  exact Int32.toInt_ofNat_of_lt (Nat.lt_of_lt_of_le hplace hfits)

/-- A location gives away the name that it was given for. -/
theorem nameAt_locate {location : Location} (hfits : r.Fits)
    (h : r.locate name = some location) : r.nameAt location = name := by
  obtain ⟨place, hplace, rfl⟩ := locate_eq_some_iff.mp h
  unfold nameAt
  rw [hfits.toInt_ofNat hplace]
  change r.names.getD place _ = name
  rw [List.getD_eq_getElem?_getD, getElem?_of_lastPlace? hplace, Option.getD_some]

theorem locate_inj {location : Location} (hfits : r.Fits) (h : r.locate name = some location)
    (hother : r.locate other = some location) : name = other := by
  rw [← nameAt_locate hfits h, nameAt_locate hfits hother]

/-- The places after those have negative locations, which stand for no name. -/
theorem nameAt_ofNat_of_le {place : Nat} (h : 2147483648 ≤ place) (hplace : place < 4294967296) :
    r.nameAt ⟨.ofNat place⟩ = "<" ++ toString ((place : Int) - 4294967296) ++ ">" := by
  have hnumber : (Int32.ofNat place).toInt = (place : Int) - 4294967296 := by
    have hsize : Int32.size = 4294967296 := rfl
    rw [Int32.toInt_ofNat', hsize, Int.bmod_def]
    omega
  obtain ⟨below, hbelow⟩ : ∃ below, (place : Int) - 4294967296 = Int.negSucc below :=
    ⟨4294967295 - place, by omega⟩
  unfold nameAt
  rw [hnumber, hbelow]

/-- A program knows what any whole lines of its source declare, whatever stands around them. -/
theorem names_ofSource_subset {source block : String} {before rest : List Char}
    (hsource : source.toList = before ++ block.toList ++ rest) (hbefore : Ended before)
    (hblock : Ended block.toList) : (ofSource block).names ⊆ (ofSource source).names := by
  intro name hname
  simp only [ofSource, hsource, List.append_assoc, Text.lines_append hbefore,
    Text.lines_append hblock, List.filterMap_append, List.mem_append]
  exact .inr (.inl hname)

theorem foldl_record (r : Recorder) (writes : List Write) :
    writes.foldl (fun program w => program.record [w]) r = r.record writes := by
  induction writes generalizing r with
  | nil => simp [record]
  | cons w rest ih => rw [List.foldl_cons, ih, record, record, record, List.append_assoc]; rfl

/-- What an empty record answers with after it has taken writes. -/
theorem takeWrites_record (h : r.writes = []) (writes : List Write) :
    (r.record writes).takeWrites.1 = writes.map fun w => (r.nameAt w.location, w.value) := by
  rw [record, h, List.nil_append]
  rfl

end SphereTrace.Recorder
