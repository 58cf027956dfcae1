import Mathlib.Data.List.Basic
import SphereTrace.Fragment.Fingerprint
import SphereTrace.Proofs.Text.Bytes
import SphereTrace.Proofs.Text.Words

/-! # What a fingerprint tells

A fingerprint can be read from the front. Each of its parts gives away what it stands for and where
it ends, whatever follows: a text ends with a byte that no text holds, and all else has a width that
is fixed or marked. So nothing can pass from one part into the next, and only requests of the same
content have the same fingerprint.
-/

namespace SphereTrace.Fragment

/-- The bytes give away the value and where they end, whatever follows them. -/
def PrefixFree {α : Type} (bytes : α → List UInt8) : Prop :=
  ∀ a b rest rest', bytes a ++ rest = bytes b ++ rest' → a = b ∧ rest = rest'

/-- Values in a row are told one by one if it is known how many there are. -/
theorem PrefixFree.flatMap {α : Type} {bytes : α → List UInt8} (h : PrefixFree bytes)
    {xs ys : List α} {rest rest' : List UInt8}
    (heq : xs.flatMap bytes ++ rest = ys.flatMap bytes ++ rest') (hlength : xs.length = ys.length) :
    xs = ys ∧ rest = rest' := by
  induction xs generalizing ys with
  | nil =>
      obtain rfl := List.length_eq_zero_iff.mp hlength.symm
      exact ⟨rfl, heq⟩
  | cons x others ih =>
      cases ys with
      | nil => cases hlength
      | cons y others' =>
          simp only [List.flatMap_cons, List.append_assoc] at heq
          obtain ⟨rfl, htail⟩ := h x y _ _ heq
          obtain ⟨rfl, hrest⟩ := ih htail (Nat.succ.inj hlength)
          exact ⟨rfl, hrest⟩

theorem prefixFree_textBytes : PrefixFree textBytes := by
  intro s t rest rest' h
  simp only [textBytes, List.append_assoc, List.singleton_append] at h
  obtain ⟨hbytes, hrest⟩ :=
    Text.eq_of_append_cons_eq (Text.notMem_toUTF8 s) (Text.notMem_toUTF8 t) h
  exact ⟨Text.toUTF8_inj hbytes, hrest⟩

theorem wordBytes_inj {w w' : UInt32} (h : wordBytes w = wordBytes w') : w = w' := by
  simp only [wordBytes, List.cons.injEq, and_true, ← UInt8.toNat_inj, UInt32.toNat_toUInt8,
    UInt32.toNat_shiftRight, Nat.shiftRight_eq_div_pow, UInt32.reduceToNat, Nat.reduceMod,
    Nat.reducePow] at h
  have hw := w.toNat_lt
  have hw' := w'.toNat_lt
  -- A word is put together from its four digits to the base 256.
  apply UInt32.toNat_inj.mp
  omega

theorem prefixFree_wordBytes : PrefixFree wordBytes := by
  intro w w' rest rest' h
  obtain ⟨hbytes, hrest⟩ := List.append_inj h rfl
  exact ⟨wordBytes_inj hbytes, hrest⟩

theorem bits_injective : Function.Injective Binary32.bits :=
  fun _ _ h => congrArg Binary32.mk h

theorem toList_injective {α : Type} : Function.Injective (Vec3.toList : Vec3 α → List α) := by
  rintro ⟨x, y, z⟩ ⟨x', y', z'⟩ h
  simpa [Vec3.toList] using h

theorem prefixFree_numberBytes : PrefixFree fun x : Binary32 => wordBytes x.bits := by
  intro x y rest rest' h
  obtain ⟨hbits, hrest⟩ := prefixFree_wordBytes x.bits y.bits rest rest' h
  exact ⟨bits_injective hbits, hrest⟩

theorem prefixFree_backgroundBytes : PrefixFree backgroundBytes := by
  intro b b' rest rest' h
  cases b with
  | none =>
      cases b' with
      | none => exact ⟨rfl, (List.cons.inj h).2⟩
      | some colour' => exact absurd (List.cons.inj h).1 (by decide)
  | some colour =>
      cases b' with
      | none => exact absurd (List.cons.inj h).1 (by decide)
      | some colour' =>
          obtain ⟨hcolour, hrest⟩ := prefixFree_numberBytes.flatMap (List.cons.inj h).2 rfl
          exact ⟨congrArg some (toList_injective hcolour), hrest⟩

namespace Request

/-- The parts of a fingerprint are read one after the other. -/
theorem prefixFree_fingerprint : PrefixFree fingerprint := by
  intro q r rest rest' h
  simp only [fingerprint, List.append_assoc] at h
  obtain ⟨htexts, h⟩ := prefixFree_textBytes.flatMap h rfl
  obtain ⟨hsteps, h⟩ := prefixFree_wordBytes _ _ _ _ h
  obtain ⟨hmin, h⟩ := prefixFree_numberBytes _ _ _ _ h
  obtain ⟨hmax, h⟩ := prefixFree_numberBytes _ _ _ _ h
  obtain ⟨hbackground, hrest⟩ := prefixFree_backgroundBytes _ _ _ _ h
  simp only [List.cons.injEq, and_true] at htexts
  obtain ⟨hdeclarations, hgeometries, hpreface, hscene, hlighting, hpostprocessing⟩ := htexts
  cases q
  cases r
  simp_all

/-- Fingerprints are equal only for requests with the same six texts, the same number of steps, the
same patterns for the two distances, and no background or the same patterns for its components. -/
theorem fingerprint_eq_iff (q r : Request) :
    q.fingerprint = r.fingerprint ↔
      (q.declarations = r.declarations ∧ q.geometries = r.geometries ∧ q.preface = r.preface ∧
        q.scene = r.scene ∧ q.lighting = r.lighting ∧ q.postprocessing = r.postprocessing) ∧
      q.steps = r.steps ∧
      q.minDistance.bits = r.minDistance.bits ∧ q.maxDistance.bits = r.maxDistance.bits ∧
      q.background.map (fun colour => colour.toList.map Binary32.bits) =
        r.background.map fun colour => colour.toList.map Binary32.bits := by
  constructor
  · intro h
    obtain ⟨rfl, -⟩ := prefixFree_fingerprint q r [] [] (congrArg (· ++ []) h)
    simp
  · rintro ⟨⟨hdeclarations, hgeometries, hpreface, hscene, hlighting, hpostprocessing⟩, hsteps, hmin,
      hmax, hbackground⟩
    have hcolour : q.background = r.background := Option.map_injective
      ((List.map_injective_iff.mpr bits_injective).comp toList_injective) hbackground
    simp only [fingerprint, hdeclarations, hgeometries, hpreface, hscene, hlighting,
      hpostprocessing, hsteps, hmin, hmax, hcolour]

end Request

end SphereTrace.Fragment
