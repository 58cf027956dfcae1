import SphereTrace.Uniform.Input

/-! # Overrides

Inputs for the parameters of a texture that is about to be made, at most one for each name. They
are kept in the order of their first mention; nothing that is made from them depends on it but the
order of warnings.
-/

namespace SphereTrace.Texture

structure Overrides where
  entries : List (String × Input) := []
  distinct : (entries.map Prod.fst).Nodup := by simp

namespace Overrides

def empty : Overrides := {}

def names (o : Overrides) : List String :=
  o.entries.map Prod.fst

def get? (o : Overrides) (name : String) : Option Input :=
  o.entries.lookup name

def size (o : Overrides) : Nat :=
  o.entries.length

/-- Puts an input in the place of the one that a name has. -/
def replace (name : String) (input : Input) (entries : List (String × Input)) :
    List (String × Input) :=
  entries.map fun entry => if entry.1 = name then (name, input) else entry

theorem map_fst_replace (name : String) (input : Input) (entries : List (String × Input)) :
    (replace name input entries).map Prod.fst = entries.map Prod.fst := by
  simp only [replace, List.map_map]
  apply List.map_congr_left
  intro entry _
  by_cases h : entry.1 = name <;> simp [h]

/-- Sets the input for a name; a later one takes the place of an earlier one. -/
def set (o : Overrides) (name : String) (input : Input) : Overrides :=
  if h : name ∈ o.entries.map Prod.fst then
    { entries := replace name input o.entries
      distinct := by rw [map_fst_replace]; exact o.distinct }
  else
    { entries := o.entries ++ [(name, input)]
      distinct := by
        have hdistinct := o.distinct
        rw [List.map_append, List.nodup_append]
        refine ⟨hdistinct, by simp, ?_⟩
        intro a ha b hb hab
        simp only [List.map_cons, List.map_nil, List.mem_singleton] at hb
        exact h (hb ▸ hab ▸ ha) }

def ofList (entries : List (String × Input)) : Overrides :=
  entries.foldl (fun o entry => o.set entry.1 entry.2) empty

end Overrides

end SphereTrace.Texture
