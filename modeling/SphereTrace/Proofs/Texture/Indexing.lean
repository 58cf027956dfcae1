import SphereTrace.Proofs.Texture.Validity
import SphereTrace.Texture.IndexedCatalog
import SphereTrace.Texture.Loading
import SphereTrace.Texture.Registry

/-! # What a catalog finds

The kinds of a catalog and its index are written apart, also by loops that end in the middle, and
stay in step: the index gives exactly what a search through the kinds gives. All that can be found is
valid, so nothing that is found fails to be instantiated.
-/

namespace SphereTrace.Texture

namespace Catalog

variable {c : Catalog} {k : Kind} {name : String}

/-- With distinct names, looking up a name gives the one kind that has it. -/
theorem lookup?_eq_some_iff (hc : c.names.Nodup) :
    c.lookup? name = some k ↔ k ∈ c.kinds ∧ k.name = name := by
  constructor
  · intro hfound
    exact ⟨List.mem_of_find?_eq_some hfound, by simpa using List.find?_some hfound⟩
  · rintro ⟨hmem, rfl⟩
    cases hfound : c.lookup? k.name with
    | none => simpa using List.find?_eq_none.mp hfound k hmem
    | some other =>
        have hname : other.name = k.name := by simpa using List.find?_some hfound
        rw [List.inj_on_of_nodup_map hc (List.mem_of_find?_eq_some hfound) hmem hname]

theorem contains_eq_isSome (c : Catalog) (name : String) :
    c.contains name = (c.lookup? name).isSome := by
  rw [Bool.eq_iff_iff, lookup?, List.find?_isSome, contains, List.any_eq_true]

/-- Adds what has been read from a text, if that could be read. -/
def load (c : Catalog) : Option (List Kind) → Catalog × Except Error Nat
  | none => (c, .error (.catalog .unreadable))
  | some kinds =>
    match c.insertAll kinds with
    | (grown, .ok ()) => (grown, .ok kinds.length)
    | (grown, .error e) => (grown, .error e)

/-- All that a catalog takes from a text is the kinds that the reader finds in it. -/
theorem extendFrom_eq_load (c : Catalog) (read : String → Option (List Kind)) (text : String) :
    c.extendFrom read text = c.load (read text) := by
  unfold extendFrom load
  cases read text <;> rfl

/-- What can be done to a catalog. In its builder form `insert` leaves no catalog behind if it
fails. -/
inductive Operation where
  | insert (k : Kind)
  | extendBuiltin
  | load (listed : Option (List Kind))

def step (c : Catalog) : Operation → Catalog
  | .insert k =>
    match c.insert k with
    | .ok grown => grown
    | .error _ => c
  | .extendBuiltin => c.extendBuiltin.1
  | .load listed => (c.load listed).1

theorem load_fst (c : Catalog) (listed : Option (List Kind)) :
    (c.load listed).1 = (c.insertAll (listed.getD [])).1 := by
  cases listed with
  | none => rfl
  | some kinds =>
      simp only [load, Option.getD_some]
      split
      next h => rw [h]
      next h => rw [h]

theorem extends_step (c : Catalog) (op : Operation) : c.Extends (c.step op) := by
  cases op with
  | insert k =>
      simp only [step]
      split
      next grown hgrown => exact .single ⟨k, hgrown⟩
      next => exact .refl
  | extendBuiltin => exact c.extends_insertMissing _
  | load listed =>
      simp only [step, load_fst]
      exact c.extends_insertAll _

end Catalog

namespace IndexedCatalog

def step (s : IndexedCatalog) : Catalog.Operation → IndexedCatalog
  | .insert k => (s.insert k).1
  | .extendBuiltin => s.extendBuiltin.1
  | .load listed => (s.load listed).1

/-- The indexed catalogs that any operations lead to, the built-in one among them. -/
inductive Reachable : IndexedCatalog → Prop where
  | empty : Reachable empty
  | step {s : IndexedCatalog} (op : Catalog.Operation) : Reachable s → Reachable (s.step op)

/-- The index gives the first place of each name. -/
def InStep (s : IndexedCatalog) : Prop :=
  ∀ name, s.index.lookup name = s.kinds.findIdx? fun k => k.name == name

variable {s : IndexedCatalog} {k : Kind}

theorem InStep.lookup?_eq (h : s.InStep) (name : String) :
    s.lookup? name = s.catalog.lookup? name := by
  rw [lookup?, h, Catalog.lookup?, List.find?_eq_bind_findIdx?_getElem?]
  rfl

theorem InStep.contains_eq (h : s.InStep) (name : String) :
    s.contains name = s.catalog.contains name := by
  rw [contains, h, List.findIdx?_isSome]
  rfl

theorem InStep.append (h : s.InStep) (hnew : s.contains k.name = false) :
    InStep { kinds := s.kinds ++ [k], index := (k.name, s.kinds.length) :: s.index } := by
  intro name
  rw [List.findIdx?_append, ← h name, List.lookup_cons, List.findIdx?_singleton]
  by_cases hname : name = k.name
  · subst hname
    have habsent : s.index.lookup k.name = none := by simpa [contains] using hnew
    simp [habsent]
  · have hbeq : (name == k.name) = false := beq_false_of_ne hname
    simp [hbeq, Ne.symm hname]

/-- An insertion succeeds with and without an index, or fails with the same error and changes
nothing. -/
theorem insert_cases (h : s.InStep) (k : Kind) :
    (∃ e, s.catalog.insert k = .error e ∧ s.insert k = (s, .error e)) ∨
      ∃ grown, s.catalog.insert k = .ok grown.catalog ∧ s.insert k = (grown, .ok ()) ∧
        grown.InStep := by
  simp only [insert, Catalog.insert, ← h.contains_eq]
  cases k.validate with
  | error e => exact .inl ⟨e, rfl, rfl⟩
  | ok =>
      cases hnew : s.contains k.name with
      | true => exact .inl ⟨_, rfl, rfl⟩
      | false => exact .inr ⟨_, rfl, rfl, h.append hnew⟩

theorem insertAll_eq (h : s.InStep) (kinds : List Kind) :
    s.catalog.insertAll kinds = ((s.insertAll kinds).1.catalog, (s.insertAll kinds).2) ∧
      (s.insertAll kinds).1.InStep := by
  induction kinds generalizing s with
  | nil => exact ⟨rfl, h⟩
  | cons k rest ih =>
      simp only [insertAll, Catalog.insertAll]
      rcases insert_cases h k with ⟨e, hcatalog, hinsert⟩ | ⟨grown, hcatalog, hinsert, hgrown⟩
      · rw [hcatalog, hinsert]
        exact ⟨rfl, h⟩
      · rw [hcatalog, hinsert]
        exact ih hgrown

theorem insertMissing_eq (h : s.InStep) (kinds : List Kind) :
    s.catalog.insertMissing kinds =
        ((s.insertMissing kinds).1.catalog, (s.insertMissing kinds).2) ∧
      (s.insertMissing kinds).1.InStep := by
  induction kinds generalizing s with
  | nil => exact ⟨rfl, h⟩
  | cons k rest ih =>
      simp only [insertMissing, Catalog.insertMissing, ← h.contains_eq]
      split
      next => exact ih h
      next =>
        rcases insert_cases h k with ⟨e, hcatalog, hinsert⟩ | ⟨grown, hcatalog, hinsert, hgrown⟩
        · rw [hcatalog, hinsert]
          obtain ⟨hrest, hkept⟩ := ih h
          exact ⟨by simp only [hrest], hkept⟩
        · rw [hcatalog, hinsert]
          exact ih hgrown

theorem load_eq (h : s.InStep) (listed : Option (List Kind)) :
    s.catalog.load listed = ((s.load listed).1.catalog, (s.load listed).2) ∧
      (s.load listed).1.InStep := by
  cases listed with
  | none => exact ⟨rfl, h⟩
  | some kinds =>
      obtain ⟨heq, hgrown⟩ := insertAll_eq h kinds
      simp only [load, Catalog.load, heq]
      cases hloaded : s.insertAll kinds with
      | mk grown answer =>
          rw [hloaded] at hgrown
          cases answer with
          | ok => exact ⟨rfl, hgrown⟩
          | error e => exact ⟨rfl, hgrown⟩

/-- The index keeps up with every operation, which does to the kinds what it does without. -/
theorem catalog_step (h : s.InStep) (op : Catalog.Operation) :
    (s.step op).catalog = s.catalog.step op ∧ (s.step op).InStep := by
  cases op with
  | insert k =>
      simp only [step, Catalog.step]
      rcases insert_cases h k with ⟨e, hcatalog, hinsert⟩ | ⟨grown, hcatalog, hinsert, hgrown⟩
      · rw [hcatalog, hinsert]
        exact ⟨rfl, h⟩
      · rw [hcatalog, hinsert]
        exact ⟨rfl, hgrown⟩
  | extendBuiltin =>
      obtain ⟨heq, hgrown⟩ := insertMissing_eq h Builtin.kinds
      exact ⟨congrArg Prod.fst heq.symm, hgrown⟩
  | load listed =>
      obtain ⟨heq, hgrown⟩ := load_eq h listed
      exact ⟨congrArg Prod.fst heq.symm, hgrown⟩

namespace Reachable

theorem builtin : Reachable builtin :=
  .step .extendBuiltin .empty

theorem inStep (h : s.Reachable) : s.InStep := by
  induction h with
  | empty => exact fun _ => rfl
  | step op _ ih => exact (catalog_step ih op).2

theorem extends_catalog (h : s.Reachable) : Catalog.empty.Extends s.catalog := by
  induction h with
  | empty => exact .refl
  | step op hs ih =>
      rw [(catalog_step hs.inStep op).1]
      exact ih.trans (Catalog.extends_step _ _)

end Reachable

end IndexedCatalog

/-- What is made from a kind of the catalog fails only for want of a variant. -/
theorem Registry.tryInstantiate_error_iff {r : Registry} (hr : r.catalog.Valid) (kind : String)
    (overrides : Overrides) :
    (∃ e, r.tryInstantiate kind overrides = .error e) ↔ r.catalog.contains kind = false := by
  rw [Catalog.contains_eq_isSome]
  unfold tryInstantiate
  cases hfound : r.catalog.lookup? kind with
  | none => simp
  | some k =>
      have hvalid := hr k (List.mem_of_find?_eq_some hfound)
      obtain ⟨variant, hvariant⟩ :=
        Option.isSome_iff_exists.mp (Kind.isSome_defaultVariant?_of_validate hvalid)
      simp [Instance.ofKind, hvariant]

namespace IndexedCatalog

variable {s : IndexedCatalog}

/-- An indexed catalog only ever holds valid kinds under distinct names. Looking up a name gives the
one kind that has it, with the index as by search. Every operation does what it does to a catalog
without an index, however a text is read, and adds kinds behind the others. A valid kind with a new
name can always be added; an insertion that fails changes nothing. Over such a catalog an
instantiation fails exactly if it does not contain the name, whatever the overrides. -/
theorem sound_of_reachable (h : s.Reachable) :
    (∀ k ∈ s.kinds, k.validate = .ok ()) ∧ (s.kinds.map Kind.name).Nodup ∧
      (∀ name k, s.lookup? name = some k ↔ k ∈ s.kinds ∧ k.name = name) ∧
      (∀ name, s.contains name = (s.lookup? name).isSome) ∧
      (∀ name, s.catalog.lookup? name = s.lookup? name ∧
        s.catalog.contains name = s.contains name) ∧
      (∀ op, (s.step op).catalog = s.catalog.step op ∧ s.kinds <+: (s.step op).kinds) ∧
      (∀ (read : String → Option (List Kind)) (text : String),
        (s.step (.load (read text))).catalog = (s.catalog.extendFrom read text).1) ∧
      (∀ k, k.validate = .ok () → s.contains k.name = false →
        (s.insert k).2 = .ok () ∧ (s.insert k).1.kinds = s.kinds ++ [k]) ∧
      (∀ k e, (s.insert k).2 = .error e → (s.insert k).1 = s) ∧
      ∀ r : Registry, r.catalog = s.catalog → ∀ name overrides,
        (∃ e, r.tryInstantiate name overrides = .error e) ↔ s.contains name = false := by
  have hinStep := h.inStep
  have hvalid : s.catalog.Valid := h.extends_catalog.valid Catalog.valid_empty
  have hnames : s.catalog.names.Nodup := h.extends_catalog.nodup_names List.nodup_nil
  refine ⟨hvalid, hnames, ?_, ?_, ?_, ?_, ?_, ?_, ?_, ?_⟩
  · intro name k
    rw [hinStep.lookup?_eq]
    exact Catalog.lookup?_eq_some_iff hnames
  · intro name
    rw [hinStep.lookup?_eq, hinStep.contains_eq, Catalog.contains_eq_isSome]
  · exact fun name => ⟨(hinStep.lookup?_eq name).symm, (hinStep.contains_eq name).symm⟩
  · intro op
    have hstep := (catalog_step hinStep op).1
    have hprefix := (s.catalog.extends_step op).isPrefix_kinds
    rw [← hstep] at hprefix
    exact ⟨hstep, hprefix⟩
  · intro read text
    rw [(catalog_step hinStep _).1, Catalog.extendFrom_eq_load]
    rfl
  · intro k hk hnew
    rw [hinStep.contains_eq] at hnew
    have hok := Catalog.insert_eq_ok_iff.mpr ⟨hk, hnew, rfl⟩
    rcases insert_cases hinStep k with ⟨_, herror, _⟩ | ⟨grown, hgrown, hinsert, _⟩
    · rw [hok] at herror
      cases herror
    · rw [hok] at hgrown
      rw [hinsert]
      exact ⟨rfl, congrArg Catalog.kinds (Except.ok.inj hgrown).symm⟩
  · intro k e he
    rcases insert_cases hinStep k with ⟨_, _, hinsert⟩ | ⟨_, _, hinsert, _⟩
    · rw [hinsert]
    · rw [hinsert] at he
      cases he
  · intro r hr name overrides
    rw [Registry.tryInstantiate_error_iff (hr ▸ hvalid), hr, hinStep.contains_eq]

/-- A list that is loaded up to a kind with the name of a built-in one. -/
theorem sound_load_dots :
    let plain : Kind := { name := "plain", solid := some ⟨"plain", "", []⟩ }
    let s := builtin.step (.load (some [plain, Builtin.dots, { plain with name := "late" }]))
    s.lookup? "plain" = some plain ∧
      ∀ overrides, ∃ e, Registry.tryInstantiate ⟨s.catalog, []⟩ "late" overrides = .error e := by
  intro plain s
  obtain ⟨_, _, hlookup, _, _, _, _, _, _, hinstantiate⟩ := sound_of_reachable
    (Reachable.builtin.step (.load (some [plain, Builtin.dots, { plain with name := "late" }])))
  constructor
  · exact (hlookup "plain" plain).mpr ⟨by decide +kernel, rfl⟩
  · intro overrides
    exact (hinstantiate ⟨s.catalog, []⟩ rfl "late" overrides).mpr (by decide +kernel)

end IndexedCatalog

end SphereTrace.Texture
