import Mathlib.Data.List.Nodup
import Mathlib.Logic.Relation
import SphereTrace.Texture.Builtin

/-! # Valid kinds

What the check of a kind says about its variants and parameters, and that a catalog holds valid kinds
under distinct names only, however it was put together: all that happens to it are insertions.
-/

namespace SphereTrace.Texture

open Glsl (Value)

namespace Kind

/-- A parameter list is without fault if its names are new and distinct and its defaults fit. -/
theorem parameterFault?_eq_none_iff (kind : String) (seen : List String) (ps : List Parameter) :
    parameterFault? kind seen ps = none ↔
      (ps.map Parameter.name).Nodup ∧ (∀ p ∈ ps, p.name ∉ seen) ∧
        ∀ p ∈ ps, (Value.ofComponents? p.type p.default).isSome := by
  induction ps generalizing seen with
  | nil => simp [parameterFault?]
  | cons p rest ih =>
      unfold parameterFault?
      split
      next hseen => simp [hseen]
      next hseen =>
        split
        next hdefault => simp [Option.isNone_iff_eq_none.mp hdefault]
        next hdefault =>
          have hfits := Option.isNone_eq_false_iff.mp (Bool.not_eq_true _ ▸ hdefault)
          rw [ih]
          simp only [List.map_cons, List.nodup_cons, List.mem_map, not_exists, not_and,
            List.mem_cons, not_or, forall_eq_or_imp, hseen, hfits, not_false_eq_true, true_and]
          constructor
          · rintro ⟨hnodup, hnew, hdefaults⟩
            exact ⟨⟨fun q hq => (hnew q hq).1, hnodup⟩, fun q hq => (hnew q hq).2, hdefaults⟩
          · rintro ⟨⟨hhead, hnodup⟩, hnew, hdefaults⟩
            exact ⟨hnodup, fun q hq => ⟨hhead q hq, hnew q hq⟩, hdefaults⟩

theorem validate_eq_ok_iff {k : Kind} : k.validate = .ok () ↔ k.fault? = none := by
  unfold validate
  cases k.fault? <;> simp

/-- What a valid kind has, in the order of the checks. -/
theorem fault?_eq_none_iff {k : Kind} : k.fault? = none ↔
    Text.isBlankText k.name = false ∧ k.sources ≠ [] ∧
      (∀ s ∈ k.sources, Text.isBlankText s.entry = false) ∧
      parameterFault? k.name [] k.parameters = none := by
  unfold fault?
  split
  next hname => simp [hname]
  next hname =>
    split
    next hsources => simp [List.isEmpty_iff.mp hsources]
    next hsources =>
      rw [List.isEmpty_iff] at hsources
      split
      next hentry =>
        obtain ⟨s, hs, hblank⟩ := List.any_eq_true.mp hentry
        simp only [reduceCtorEq, false_iff]
        rintro ⟨_, _, hentries, _⟩
        rw [hentries s hs] at hblank
        cases hblank
      next hentry =>
        have hentries : ∀ s ∈ k.sources, Text.isBlankText s.entry = false := by
          simpa using hentry
        simpa [hname, hsources] using fun _ => hentries

theorem nodup_names_of_validate {k : Kind} (h : k.validate = .ok ()) :
    (k.parameters.map Parameter.name).Nodup := by
  obtain ⟨_, _, _, hparameters⟩ := fault?_eq_none_iff.mp (validate_eq_ok_iff.mp h)
  exact ((parameterFault?_eq_none_iff _ _ _).mp hparameters).1

theorem mem_sources_iff {k : Kind} {s : Source} :
    s ∈ k.sources ↔ ∃ variant, k.source? variant = some s := by
  rw [sources, List.mem_append, Option.mem_toList, Option.mem_toList]
  constructor
  · rintro (hsolid | hplanar)
    · exact ⟨.solid, hsolid⟩
    · exact ⟨.planar, hplanar⟩
  · rintro ⟨_ | _, hsource⟩
    · exact .inl hsource
    · exact .inr hsource

theorem mem_sources {k : Kind} {variant : Variant} {s : Source} (h : k.source? variant = some s) :
    s ∈ k.sources :=
  mem_sources_iff.mpr ⟨variant, h⟩

theorem sources_ne_nil_iff {k : Kind} :
    k.sources ≠ [] ↔ ∃ variant, (k.source? variant).isSome := by
  rw [← List.length_pos_iff, List.length_pos_iff_exists_mem]
  simp only [mem_sources_iff, Option.isSome_iff_exists]
  exact exists_comm

/-- A kind with a source has a variant for new instances. -/
theorem isSome_defaultVariant? {k : Kind} (h : k.sources ≠ []) : k.defaultVariant?.isSome := by
  cases hsolid : k.solid with
  | some s => simp [defaultVariant?, hsolid]
  | none =>
      cases hplanar : k.planar with
      | some s => simp [defaultVariant?, hsolid, hplanar]
      | none => simp [sources, hsolid, hplanar] at h

theorem isSome_defaultVariant?_of_validate {k : Kind} (h : k.validate = .ok ()) :
    k.defaultVariant?.isSome := by
  obtain ⟨_, hsources, _⟩ := fault?_eq_none_iff.mp (validate_eq_ok_iff.mp h)
  exact isSome_defaultVariant? hsources

end Kind

namespace Catalog

/-- The catalogs that can be put together, from nothing, kind by kind or in bulk. A text adds the
kinds that it lists, which can be any. -/
inductive Reachable : Catalog → Prop where
  | empty : Reachable empty
  | insert {c grown : Catalog} {k : Kind} :
      Reachable c → c.insert k = .ok grown → Reachable grown
  | extendBuiltin {c : Catalog} : Reachable c → Reachable c.extendBuiltin.1
  | insertAll {c : Catalog} (kinds : List Kind) : Reachable c → Reachable (c.insertAll kinds).1

variable {c grown : Catalog} {k : Kind}

theorem insert_eq_ok_iff : c.insert k = .ok grown ↔
    k.validate = .ok () ∧ c.contains k.name = false ∧ grown = ⟨c.kinds ++ [k]⟩ := by
  unfold insert
  split
  next e hk => simp [hk]
  next hk =>
    split
    next htaken => simp [htaken]
    next hnew => simp [hk, hnew, eq_comm]

/-- The first catalog has become the second by insertions. -/
def Extends : Catalog → Catalog → Prop :=
  Relation.ReflTransGen fun c grown => ∃ k, c.insert k = .ok grown

theorem extends_insertAll (c : Catalog) (kinds : List Kind) :
    c.Extends (c.insertAll kinds).1 := by
  induction kinds generalizing c with
  | nil => exact .refl
  | cons k rest ih =>
      unfold insertAll
      split
      next => exact .refl
      next grown hgrown => exact .head ⟨k, hgrown⟩ (ih grown)

theorem extends_insertMissing (c : Catalog) (kinds : List Kind) :
    c.Extends (c.insertMissing kinds).1 := by
  induction kinds generalizing c with
  | nil => exact .refl
  | cons k rest ih =>
      unfold insertMissing
      split
      next => exact ih c
      next =>
        split
        next => exact ih c
        next grown hgrown => exact .head ⟨k, hgrown⟩ (ih grown)

theorem Reachable.extends_empty (h : c.Reachable) : Catalog.empty.Extends c := by
  induction h with
  | empty => exact .refl
  | insert _ hgrown ih => exact ih.tail ⟨_, hgrown⟩
  | extendBuiltin _ ih => exact ih.trans (extends_insertMissing _ _)
  | insertAll kinds _ ih => exact ih.trans (extends_insertAll _ kinds)

/-- Are all kinds of the catalog valid? -/
def Valid (c : Catalog) : Prop :=
  ∀ k ∈ c.kinds, k.validate = .ok ()

namespace Extends

theorem isPrefix_kinds (h : c.Extends grown) : c.kinds <+: grown.kinds := by
  induction h with
  | refl => exact List.prefix_refl _
  | tail _ hinsert ih =>
      obtain ⟨k, hk⟩ := hinsert
      obtain ⟨_, _, rfl⟩ := insert_eq_ok_iff.mp hk
      exact ih.trans (List.prefix_append _ _)

theorem valid (h : c.Extends grown) (hc : c.Valid) : grown.Valid := by
  induction h with
  | refl => exact hc
  | tail _ hinsert ih =>
      obtain ⟨k, hk⟩ := hinsert
      obtain ⟨hvalid, _, rfl⟩ := insert_eq_ok_iff.mp hk
      intro other hother
      rcases List.mem_append.mp hother with hold | hnew
      · exact ih other hold
      · rw [List.mem_singleton.mp hnew, hvalid]

theorem nodup_names (h : c.Extends grown) (hc : c.names.Nodup) : grown.names.Nodup := by
  induction h with
  | refl => exact hc
  | @tail middle _ _ hinsert ih =>
      obtain ⟨k, hk⟩ := hinsert
      obtain ⟨_, hnew, rfl⟩ := insert_eq_ok_iff.mp hk
      have hfresh : ∀ other ∈ middle.kinds, other.name ≠ k.name := by
        simpa [contains] using hnew
      simpa [names, List.nodup_append] using ⟨ih, hfresh⟩

end Extends

theorem valid_empty : empty.Valid := by
  intro k hk
  cases hk

theorem Reachable.valid (h : c.Reachable) : c.Valid :=
  h.extends_empty.valid valid_empty

end Catalog

end SphereTrace.Texture
