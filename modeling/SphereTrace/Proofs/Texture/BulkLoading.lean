import Mathlib.Order.Bounds.Defs
import SphereTrace.Proofs.Texture.Indexing

/-! # Adding kinds in bulk

A list of kinds is added up to the first that is refused, so what is added is the longest part of
the list that the catalog admits as a whole, whatever is the matter with the rest. Adding what is
missing skips the names that are taken instead, and the built-in kinds are never refused.
-/

namespace SphereTrace.Texture

namespace Catalog

variable {c grown : Catalog} {k : Kind} {name : String} {kinds rest : List Kind}

theorem contains_iff_mem_names : c.contains name = true ↔ name ∈ c.names := by
  simp [contains, names]

theorem contains_eq_false_iff : c.contains name = false ↔ name ∉ c.names := by
  rw [← contains_iff_mem_names, Bool.not_eq_true]

/-- All kinds of a list can be added: they are valid, and their names are distinct from each other
and from those of the catalog. -/
structure Admits (c : Catalog) (kinds : List Kind) : Prop where
  valid : ∀ k ∈ kinds, k.validate = .ok ()
  distinct : (kinds.map Kind.name).Nodup
  fresh : ∀ k ∈ kinds, k.name ∉ c.names

theorem admits_nil (c : Catalog) : c.Admits [] where
  valid := nofun
  distinct := List.nodup_nil
  fresh := nofun

/-- After the first kind has been added, its name is one of those that are taken. -/
theorem admits_cons_iff :
    c.Admits (k :: rest) ↔ ∃ grown, c.insert k = .ok grown ∧ grown.Admits rest := by
  constructor
  · rintro ⟨hvalid, hdistinct, hfresh⟩
    obtain ⟨hk, hvalid⟩ := List.forall_mem_cons.mp hvalid
    obtain ⟨hnew, hfresh⟩ := List.forall_mem_cons.mp hfresh
    obtain ⟨hfirst, hdistinct⟩ := List.nodup_cons.mp hdistinct
    refine ⟨_, insert_eq_ok_iff.mpr ⟨hk, contains_eq_false_iff.mpr hnew, rfl⟩, hvalid, hdistinct,
      ?_⟩
    intro other hother
    have hne : other.name ≠ k.name := fun heq => hfirst (heq ▸ List.mem_map_of_mem hother)
    simpa [names, hne] using hfresh other hother
  · rintro ⟨grown, hgrown, hvalid, hdistinct, hfresh⟩
    obtain ⟨hk, hnew, rfl⟩ := insert_eq_ok_iff.mp hgrown
    have hnames : ∀ other ∈ rest, other.name ∉ c.names ∧ other.name ≠ k.name := by
      simpa [names, not_or] using hfresh
    refine ⟨List.forall_mem_cons.mpr ⟨hk, hvalid⟩, List.nodup_cons.mpr ⟨?_, hdistinct⟩,
      List.forall_mem_cons.mpr ⟨contains_eq_false_iff.mp hnew, fun other h => (hnames other h).1⟩⟩
    rintro hmem
    obtain ⟨other, hother, heq⟩ := List.mem_map.mp hmem
    exact (hnames other hother).2 heq

/-- The length of the longest part at the start of a list that a catalog admits. -/
def AdmitsFirst (c : Catalog) (kinds : List Kind) (count : Nat) : Prop :=
  IsGreatest {n | n ≤ kinds.length ∧ c.Admits (kinds.take n)} count

theorem admitsFirst_of_refused {e : Error} (h : c.insert k = .error e) (rest : List Kind) :
    c.AdmitsFirst (k :: rest) 0 := by
  refine ⟨⟨Nat.zero_le _, admits_nil c⟩, ?_⟩
  rintro (_ | n) ⟨_, hadmits⟩
  · exact Nat.le_refl 0
  · obtain ⟨grown, hgrown, _⟩ := admits_cons_iff.mp hadmits
    rw [h] at hgrown
    cases hgrown

theorem AdmitsFirst.succ {count : Nat} (hgrown : c.insert k = .ok grown)
    (h : grown.AdmitsFirst rest count) : c.AdmitsFirst (k :: rest) (count + 1) := by
  obtain ⟨⟨hle, hadmits⟩, hgreatest⟩ := h
  refine ⟨⟨Nat.succ_le_succ hle, admits_cons_iff.mpr ⟨grown, hgrown, hadmits⟩⟩, ?_⟩
  rintro (_ | n) ⟨hn, hadmits⟩
  · exact Nat.zero_le _
  · obtain ⟨other, hother, hrest⟩ := admits_cons_iff.mp hadmits
    obtain rfl := Except.ok.inj (hgrown.symm.trans hother)
    exact Nat.succ_le_succ (hgreatest ⟨Nat.le_of_succ_le_succ hn, hrest⟩)

/-- What is added of a list is the longest part that the catalog admits. Where this is not all of
it, the answer is that of the insertion of the next kind. -/
theorem exists_insertAll (c : Catalog) (kinds : List Kind) :
    ∃ count, c.AdmitsFirst kinds count ∧
      (c.insertAll kinds).1.kinds = c.kinds ++ kinds.take count ∧
      ((count = kinds.length ∧ (c.insertAll kinds).2 = .ok ()) ∨
        ∃ k e, kinds[count]? = some k ∧ (c.insertAll kinds).1.insert k = .error e ∧
          (c.insertAll kinds).2 = .error e) := by
  induction kinds generalizing c with
  | nil =>
      refine ⟨0, ⟨⟨Nat.le_refl 0, admits_nil c⟩, fun n hn => hn.1⟩, ?_, .inl ⟨rfl, rfl⟩⟩
      exact (List.append_nil _).symm
  | cons k rest ih =>
      cases hinsert : c.insert k with
      | error e =>
          simp only [insertAll, hinsert]
          exact ⟨0, admitsFirst_of_refused hinsert rest, (List.append_nil _).symm,
            .inr ⟨k, e, rfl, hinsert, rfl⟩⟩
      | ok grown =>
          obtain ⟨count, hfirst, hkinds, hanswer⟩ := ih grown
          obtain ⟨_, _, rfl⟩ := insert_eq_ok_iff.mp hinsert
          simp only [insertAll, hinsert]
          refine ⟨count + 1, hfirst.succ hinsert, ?_, ?_⟩
          · rw [hkinds, List.take_succ_cons, List.append_assoc, List.singleton_append]
          · exact hanswer.imp_left (And.imp_left (congrArg Nat.succ))

/-- Kinds that are valid and have distinct names are never refused where their names are not
taken. -/
theorem insertMissing_of_valid (hvalid : ∀ k ∈ kinds, k.validate = .ok ())
    (hdistinct : (kinds.map Kind.name).Nodup) (c : Catalog) :
    c.insertMissing kinds = (⟨c.kinds ++ kinds.filter fun k => k.name ∉ c.names⟩, []) := by
  induction kinds generalizing c with
  | nil => simp [insertMissing]
  | cons k rest ih =>
      obtain ⟨hk, hvalid⟩ := List.forall_mem_cons.mp hvalid
      obtain ⟨hfirst, hdistinct⟩ := List.nodup_cons.mp hdistinct
      unfold insertMissing
      split
      next htaken =>
        rw [contains_iff_mem_names] at htaken
        rw [ih hvalid hdistinct, List.filter_cons_of_neg (by simpa using htaken)]
      next hnew =>
        rw [Bool.not_eq_true] at hnew
        have hnames := contains_eq_false_iff.mp hnew
        have hothers : (rest.filter fun other => other.name ∉ (⟨c.kinds ++ [k]⟩ : Catalog).names) =
            rest.filter fun other => other.name ∉ c.names := by
          apply List.filter_congr
          intro other hother
          have hne : other.name ≠ k.name := fun heq => hfirst (heq ▸ List.mem_map_of_mem hother)
          simp [names, hne]
        simp only [insert_eq_ok_iff.mpr ⟨hk, hnew, rfl⟩]
        rw [ih hvalid hdistinct, hothers, List.filter_cons_of_pos (by simpa using hnames),
          List.append_assoc, List.singleton_append]

theorem load_some (c : Catalog) (kinds : List Kind) :
    (c.load (some kinds)).1 = (c.insertAll kinds).1 ∧
      (c.load (some kinds)).2 = (c.insertAll kinds).2.map fun () => kinds.length := by
  rw [load]
  split <;> rename_i heq <;> simp [heq, Except.map]

end Catalog

namespace Builtin

theorem validate_eq_ok : ∀ k ∈ kinds, k.validate = .ok () := by
  decide +kernel

theorem nodup_names : (kinds.map Kind.name).Nodup := by
  decide

end Builtin

namespace IndexedCatalog

variable {s : IndexedCatalog} {kinds : List Kind}

/-- Nothing is missing where all names are taken. -/
theorem insertMissing_of_contains (h : ∀ k ∈ kinds, s.contains k.name = true) :
    s.insertMissing kinds = (s, []) := by
  induction kinds with
  | nil => rfl
  | cons k rest ih =>
      obtain ⟨hk, hrest⟩ := List.forall_mem_cons.mp h
      rw [insertMissing, if_pos hk, ih hrest]

/-- What is loaded into an indexed catalog, and the error that ends the loading. -/
theorem exists_load (h : s.InStep) (kinds : List Kind) :
    ∃ count, s.catalog.AdmitsFirst kinds count ∧
      (s.load (some kinds)).1.kinds = s.kinds ++ kinds.take count ∧
      ((s.load (some kinds)).2 = .ok kinds.length ↔ count = kinds.length) ∧
      ∀ k, kinds[count]? = some k → ∃ e, (s.load (some kinds)).2 = .error e ∧
        (s.load (some kinds)).1.insert k = ((s.load (some kinds)).1, .error e) := by
  obtain ⟨hload, hgrown⟩ := load_eq h (some kinds)
  obtain ⟨hcatalog, hanswer⟩ := s.catalog.load_some kinds
  rw [hload] at hcatalog hanswer
  obtain ⟨count, hfirst, hkinds, hcases⟩ := s.catalog.exists_insertAll kinds
  rw [← hcatalog] at hkinds hcases
  refine ⟨count, hfirst, hkinds, ?_⟩
  rcases hcases with ⟨rfl, hok⟩ | ⟨k, e, hk, hinsert, herror⟩
  · rw [hanswer, hok]
    exact ⟨iff_of_true rfl rfl, by simp⟩
  · have hlt := (List.getElem?_eq_some_iff.mp hk).1
    rw [hanswer, herror]
    refine ⟨iff_of_false (by simp [Except.map]) (Nat.ne_of_lt hlt), ?_⟩
    rintro other hother
    obtain rfl := Option.some.inj (hk.symm.trans hother)
    refine ⟨e, rfl, ?_⟩
    rcases insert_cases hgrown k with ⟨e', he', hkept⟩ | ⟨_, hok, _⟩
    · obtain rfl := Except.error.inj (hinsert.symm.trans he')
      exact hkept
    · rw [hinsert] at hok
      cases hok

/-- The built-in kinds that are missing are added in their order, and none is refused. -/
theorem extendBuiltin_eq (h : s.InStep) :
    s.extendBuiltin.1.kinds =
        s.kinds ++ Builtin.kinds.filter (fun k => k.name ∉ s.kinds.map Kind.name) ∧
      s.extendBuiltin.2 = [] := by
  have hmissing := (insertMissing_eq h Builtin.kinds).1
  rw [Catalog.insertMissing_of_valid Builtin.validate_eq_ok Builtin.nodup_names] at hmissing
  obtain ⟨hkinds, hrefusals⟩ := Prod.mk.inj hmissing
  exact ⟨(congrArg Catalog.kinds hkinds).symm, hrefusals.symm⟩

theorem contains_extendBuiltin (h : s.InStep) :
    ∀ k ∈ Builtin.kinds, s.extendBuiltin.1.contains k.name = true := by
  intro k hk
  have hgrown : s.extendBuiltin.1.InStep := (insertMissing_eq h Builtin.kinds).2
  rw [hgrown.contains_eq, Catalog.contains_iff_mem_names, Catalog.names, catalog,
    (extendBuiltin_eq h).1, List.map_append, List.mem_append]
  by_cases htaken : k.name ∈ s.kinds.map Kind.name
  · exact .inl htaken
  · exact .inr (List.mem_map_of_mem (List.mem_filter.mpr ⟨hk, decide_eq_true htaken⟩))

/-- A list of kinds is loaded up to the end of its longest part that consists of valid kinds with
distinct names that are not taken; the number of kinds is the answer exactly if that is the whole
list, and otherwise the error is that of the next kind. A text that cannot be read adds nothing. The
built-in kinds that are missing by name are added in their order, without a refusal; what the
catalog finds is found in it as before, under built-in names too, and adding them again changes
nothing. -/
theorem bulk_of_reachable (h : s.Reachable) :
    (∀ kinds : List Kind, ∃ count,
      IsGreatest {n | n ≤ kinds.length ∧ s.catalog.Admits (kinds.take n)} count ∧
      (s.load (some kinds)).1.kinds = s.kinds ++ kinds.take count ∧
      ((s.load (some kinds)).2 = .ok kinds.length ↔ count = kinds.length) ∧
      ∀ k, kinds[count]? = some k → ∃ e, (s.load (some kinds)).2 = .error e ∧
        (s.load (some kinds)).1.insert k = ((s.load (some kinds)).1, .error e)) ∧
    s.load none = (s, .error (.catalog .unreadable)) ∧
    (∀ (read : String → Option (List Kind)) (text : String), s.catalog.extendFrom read text =
      ((s.load (read text)).1.catalog, (s.load (read text)).2)) ∧
    s.extendBuiltin.1.kinds =
      s.kinds ++ Builtin.kinds.filter (fun k => k.name ∉ s.kinds.map Kind.name) ∧
    s.extendBuiltin.2 = [] ∧
    (∀ name k, s.lookup? name = some k → s.extendBuiltin.1.lookup? name = some k) ∧
    s.extendBuiltin.1.extendBuiltin = (s.extendBuiltin.1, []) := by
  have hinStep := h.inStep
  have hgrown : (s.step .extendBuiltin).Reachable := h.step .extendBuiltin
  obtain ⟨hkinds, hrefusals⟩ := extendBuiltin_eq hinStep
  refine ⟨exists_load hinStep, rfl, ?_, hkinds, hrefusals, ?_,
    insertMissing_of_contains (contains_extendBuiltin hinStep)⟩
  · intro read text
    rw [Catalog.extendFrom_eq_load, (load_eq hinStep _).1]
  · intro name k hfound
    have hnames := h.extends_catalog.nodup_names List.nodup_nil
    have hgrownNames := hgrown.extends_catalog.nodup_names List.nodup_nil
    rw [hinStep.lookup?_eq, Catalog.lookup?_eq_some_iff hnames] at hfound
    have hkept : k ∈ s.extendBuiltin.1.kinds := by
      rw [hkinds]
      exact List.mem_append_left _ hfound.1
    exact (hgrown.inStep.lookup?_eq name).trans
      ((Catalog.lookup?_eq_some_iff hgrownNames).mpr ⟨hkept, hfound.2⟩)

/-- A list whose second kind has the name of a built-in one. -/
theorem bulk_load_dots :
    let plain : Kind := { name := "plain", solid := some ⟨"plain", "", []⟩ }
    let kinds := [plain, Builtin.dots, { plain with name := "late" }]
    IndexedCatalog.builtin.Reachable ∧
      IsGreatest {n | n ≤ 3 ∧ builtin.catalog.Admits (kinds.take n)} 1 ∧
      (builtin.load (some kinds)).1.kinds = builtin.kinds ++ [plain] ∧
      (builtin.load (some kinds)).2 = .error (.catalog (.alreadyDefined "dots")) ∧
      (builtin.load (some kinds)).1.insert Builtin.dots =
        ((builtin.load (some kinds)).1, .error (.catalog (.alreadyDefined "dots"))) := by
  intro plain kinds
  obtain ⟨hload, _⟩ := bulk_of_reachable Reachable.builtin
  obtain ⟨count, hgreatest, hkinds, _, herror⟩ := hload kinds
  have hcount : count = 1 := by
    have hlength := congrArg List.length hkinds
    have height : (builtin.load (some kinds)).1.kinds.length = 8 := by decide +kernel
    have hseven : builtin.kinds.length = 7 := by decide +kernel
    have hle : count ≤ 3 := hgreatest.1.1
    rw [List.length_append, height, hseven, List.length_take_of_le hle] at hlength
    omega
  subst hcount
  obtain ⟨e, hanswer, hinsert⟩ := herror Builtin.dots rfl
  have hdots : (builtin.load (some kinds)).2 = .error (.catalog (.alreadyDefined "dots")) := by
    decide +kernel
  obtain rfl : e = .catalog (.alreadyDefined "dots") := Except.error.inj (hanswer.symm.trans hdots)
  exact ⟨.builtin, hgreatest, hkinds, hanswer, hinsert⟩

end IndexedCatalog

end SphereTrace.Texture
