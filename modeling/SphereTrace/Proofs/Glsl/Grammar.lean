import Mathlib.Data.List.Forall2
import SphereTrace.Proofs.Glsl.Numbers
import SphereTrace.Proofs.Text.Words

/-! # Constants in the grammar

A constant is a number or the constructor of a vector. The reader splits a constructor at its
commas, which are not part of numbers, and answers exactly for the texts of the grammar.
-/

namespace SphereTrace.Glsl

open Ron.Reader (signed isFloatChar)

section Constructor

/-- The blanks of the shading language. -/
def isSpace (c : Char) : Bool :=
  c == ' ' || (9 ≤ c.toNat && c.toNat ≤ 13)

/-- A float between blanks. -/
def Component (arg : List Char) (x : Binary32) : Prop :=
  ∃ left body right, arg = left ++ (body ++ right) ∧ left.all isSpace = true ∧
    right.all isSpace = true ∧ Scalar body (.float x)

/-- Floats between commas. -/
def Components (inner : List Char) (xs : List Binary32) : Prop :=
  ∃ args, args ≠ [] ∧ inner = [','].intercalate args ∧ List.Forall₂ Component args xs

/-- A constant: a number, or the constructor of a vector from one float for each component or from a
single one for all. -/
inductive Constant : List Char → Value → Prop where
  | scalar {cs : List Char} {v : Value} (h : Scalar cs v) : Constant cs v
  | constructor {type : DataType} {inner : List Char} {xs : List Binary32} {v : Value}
      (hvector : 1 < type.arity) (hinner : Components inner xs)
      (hvalue : Value.ofComponents? type xs = some v) :
      Constant (type.name.toList ++ '(' :: (inner ++ [')'])) v

/-- Reads a float between blanks. -/
def component? (arg : List Char) : Option Binary32 :=
  match scalar? (Text.dropTail isSpace (arg.dropWhile isSpace)) with
  | some (.float x) => some x
  | _ => none

/-- Reads floats between commas. -/
def components? (inner : List Char) : Option (List Binary32) :=
  (inner.splitOn ',').mapM component?

/-- The vector types, by their number of components. -/
def vectorType? : Char → Option DataType
  | '2' => some .vec2
  | '3' => some .vec3
  | '4' => some .vec4
  | _ => none

/-- Reads a constant. -/
def constant? : List Char → Option Value
  | 'v' :: 'e' :: 'c' :: size :: '(' :: rest =>
    if rest.getLast? = some ')' then
      (vectorType? size).bind fun type =>
        (components? rest.dropLast).bind (Value.ofComponents? type)
    else none
  | cs => scalar? cs

variable {cs arg inner : List Char} {x : Binary32} {xs : List Binary32} {v : Value}
  {type : DataType}

theorem not_isSpace_of_isFloatChar {c : Char} (h : isFloatChar c = true) : isSpace c = false := by
  have hdigit : c.isDigit = true → isSpace c = false := by
    intro hdigit
    have hrange := Ron.Reader.toNat_of_isDigit hdigit
    have hblank : c ≠ ' ' := by
      rintro rfl
      exact absurd hdigit (by decide)
    have hcontrol : ¬ c.toNat ≤ 13 := by omega
    simp [isSpace, hblank, hcontrol]
  simp only [isFloatChar, Bool.or_eq_true, beq_iff_eq] at h
  rcases h with (((((h | rfl) | rfl) | rfl) | rfl) | rfl) | rfl
  · exact hdigit h
  all_goals decide

/-- Neither a blank nor a comma is part of a float. -/
theorem Scalar.float_chars (h : Scalar cs (.float x)) :
    cs ≠ [] ∧ ∀ c ∈ cs, isSpace c = false ∧ c ≠ ',' := by
  cases h with
  | @float body significand e negative h =>
      have hbody : ∀ c ∈ body, isSpace c = false ∧ c ≠ ',' := by
        intro c hc
        rcases h.isFloatChar_or c hc with hchar | rfl | rfl
        · refine ⟨not_isSpace_of_isFloatChar hchar, ?_⟩
          rintro rfl
          exact absurd hchar (by decide)
        · decide
        · decide
      cases negative with
      | true => exact ⟨List.cons_ne_nil _ _, List.forall_mem_cons.mpr ⟨by decide, hbody⟩⟩
      | false =>
          obtain ⟨c, rest, rfl, _⟩ := h.head
          exact ⟨List.cons_ne_nil _ _, hbody⟩

theorem component_of_component? (h : component? arg = some x) : Component arg x := by
  obtain ⟨right, hright, hspaces⟩ := Text.exists_append_dropTail isSpace (arg.dropWhile isSpace)
  refine ⟨arg.takeWhile isSpace, Text.dropTail isSpace (arg.dropWhile isSpace), right, ?_,
    List.all_takeWhile, hspaces, ?_⟩
  · rw [hright, List.takeWhile_append_dropWhile]
  · unfold component? at h
    split at h
    · next hread =>
      obtain rfl := Option.some.inj h
      exact scalar?_eq_some_iff.mp hread
    · cases h

theorem Component.component?_eq (h : Component arg x) : component? arg = some x := by
  obtain ⟨left, body, right, rfl, hleft, hright, hbody⟩ := h
  obtain ⟨hne, hchars⟩ := hbody.float_chars
  have hfirst : (body ++ right).dropWhile isSpace = body ++ right := by
    obtain ⟨c, others, rfl⟩ := List.exists_cons_of_ne_nil hne
    exact List.dropWhile_cons_of_neg (by simp [(hchars c List.mem_cons_self).1])
  have hlast : body.getLast?.any isSpace = false := by
    rw [List.getLast?_eq_some_getLast hne]
    exact (hchars _ (List.getLast_mem hne)).1
  rw [component?, List.dropWhile_append_of_pos (List.all_eq_true.mp hleft), hfirst,
    Text.dropTail_append hright, Text.dropTail_eq_self hlast, scalar?_eq_some_iff.mpr hbody]

/-- A comma is not part of a component. -/
theorem Component.comma_notMem (h : Component arg x) : ',' ∉ arg := by
  obtain ⟨left, body, right, rfl, hleft, hright, hbody⟩ := h
  have hspaces : ∀ {blanks : List Char}, blanks.all isSpace = true → ',' ∉ blanks :=
    fun hall hmem => absurd (List.all_eq_true.mp hall _ hmem) (by decide)
  simp only [List.mem_append, not_or]
  exact ⟨hspaces hleft, fun hmem => (hbody.float_chars.2 _ hmem).2 rfl, hspaces hright⟩

/-- The pieces of a list are read one by one. -/
theorem mapM_component?_eq_some_iff {args : List (List Char)} :
    args.mapM component? = some xs ↔ List.Forall₂ Component args xs := by
  induction args generalizing xs with
  | nil => simp [eq_comm]
  | cons arg args ih =>
      rw [List.mapM_cons, List.forall₂_cons_left_iff]
      constructor
      · intro h
        obtain ⟨x, hx, h⟩ := Option.bind_eq_some_iff.mp h
        obtain ⟨rest, hrest, h⟩ := Option.bind_eq_some_iff.mp h
        exact ⟨x, rest, component_of_component? hx, ih.mp hrest, (Option.some.inj h).symm⟩
      · rintro ⟨x, rest, hx, hrest, rfl⟩
        rw [hx.component?_eq, ih.mpr hrest]
        rfl

theorem comma_notMem_of_forall₂ {args : List (List Char)} (h : List.Forall₂ Component args xs) :
    ∀ arg ∈ args, ',' ∉ arg := by
  induction h with
  | nil => simp
  | cons hfirst _ ih => exact List.forall_mem_cons.mpr ⟨hfirst.comma_notMem, ih⟩

theorem components?_eq_some_iff : components? inner = some xs ↔ Components inner xs := by
  rw [components?, mapM_component?_eq_some_iff]
  constructor
  · exact fun h => ⟨_, List.splitOn_ne_nil ',' inner, (List.intercalate_splitOn ',').symm, h⟩
  · rintro ⟨args, hne, rfl, hargs⟩
    rwa [List.splitOn_intercalate ',' (comma_notMem_of_forall₂ hargs) hne]

theorem exists_size (h : 1 < type.arity) : ∃ size, type.name.toList = ['v', 'e', 'c', size] := by
  cases type with
  | int | float => exact absurd h (by decide)
  | vec2 | vec3 | vec4 => exact ⟨_, rfl⟩

theorem vectorType?_eq_some_iff {size : Char} :
    vectorType? size = some type ↔
      1 < type.arity ∧ type.name.toList = ['v', 'e', 'c', size] := by
  constructor
  · intro h
    unfold vectorType? at h
    split at h <;> cases h <;> decide
  · rintro ⟨hvector, hname⟩
    cases type with
    | int | float => exact absurd hvector (by decide)
    | vec2 =>
        obtain rfl : '2' = size := Option.some.inj (congrArg (·[3]?) hname)
        rfl
    | vec3 =>
        obtain rfl : '3' = size := Option.some.inj (congrArg (·[3]?) hname)
        rfl
    | vec4 =>
        obtain rfl : '4' = size := Option.some.inj (congrArg (·[3]?) hname)
        rfl

theorem Scalar.head_ne (h : Scalar cs v) : cs.head? ≠ some 'v' := by
  have hsigned : ∀ {c : Char} (negative : Bool) (rest : List Char), (c.isDigit = true ∨ c = '.') →
      (signed negative (c :: rest)).head? ≠ some 'v' := by
    intro c negative rest hc hhead
    cases negative with
    | true => cases hhead
    | false =>
        cases hhead
        exact absurd hc (by decide)
  cases h with
  | int negative h =>
      obtain ⟨c, rest, rfl, hc⟩ := h.head
      exact hsigned negative rest (.inl hc)
  | float negative h =>
      obtain ⟨c, rest, rfl, hc⟩ := h.head
      exact hsigned negative rest hc

theorem constant_of_constant? (h : constant? cs = some v) : Constant cs v := by
  unfold constant? at h
  split at h
  · next size rest =>
    split at h
    · next hclose =>
      obtain ⟨type, htype, h⟩ := Option.bind_eq_some_iff.mp h
      obtain ⟨xs, hinner, hvalue⟩ := Option.bind_eq_some_iff.mp h
      obtain ⟨hvector, hname⟩ := vectorType?_eq_some_iff.mp htype
      have hconstant := Constant.constructor hvector (components?_eq_some_iff.mp hinner) hvalue
      rwa [hname, List.dropLast_append_getLast? _ hclose] at hconstant
    · cases h
  · exact .scalar (scalar?_eq_some_iff.mp h)

theorem Constant.constant?_eq (h : Constant cs v) : constant? cs = some v := by
  cases h with
  | scalar h =>
      unfold constant?
      split
      next => exact absurd rfl h.head_ne
      next => exact scalar?_eq_some_iff.mpr h
  | @constructor type inner xs _ hvector hinner hvalue =>
      obtain ⟨size, hname⟩ := exists_size hvector
      rw [hname]
      simp only [List.cons_append, List.nil_append, constant?, List.getLast?_concat,
        List.dropLast_concat, if_true, vectorType?_eq_some_iff.mpr ⟨hvector, hname⟩,
        components?_eq_some_iff.mpr hinner, Option.bind_some]
      exact hvalue

theorem constant?_eq_some_iff : constant? cs = some v ↔ Constant cs v :=
  ⟨constant_of_constant?, Constant.constant?_eq⟩

end Constructor

end SphereTrace.Glsl
