import SphereTrace.Proofs.Glsl.Definitions
import SphereTrace.Texture.Builtin

/-! # Definitions in the built-in sources

What the texts of the built-in kinds define is read off them, text by text. The body of a source
defines its entry function and nothing else, with the coordinate of the variant, the normal and the
parameters of the kind in order; no helper defines an entry function.
-/

namespace SphereTrace.Texture.Builtin

open Glsl

/-! ## Bodies

A body is one block. Its lines are gone through one by one; that they are matched reducibly stops the
repetition at a line that is written in two parts, instead of putting the parts together.
-/

theorem defines_checkers : Defines (chunk Pattern.checkers)
    [⟨"vec3", "checkers", [("vec3", "pos"), ("vec3", "normal"), ("float", "size"),
      ("vec3", "color1"), ("vec3", "color2")]⟩] := by
  refine .empty_line_cons (defines_block (isHead_ofList (by decide)) ?_)
  refine .append (.append ?_ (.chain ?_)) ?_
  · repeat with_reducible apply Nested.line (by decide)
    exact nested_nil
  · refine List.forall_mem_cons.mpr ⟨⟨neutral_ofList ?_, .line ?_ nested_nil⟩,
      List.forall_mem_singleton.mpr ⟨neutral_ofList ?_, .line ?_ nested_nil⟩⟩ <;> decide
  · repeat with_reducible apply Nested.line (by decide)
    exact nested_nil

theorem defines_checkersPlanar : Defines (chunk Pattern.checkersPlanar)
    [⟨"vec3", "checkers2d", [("vec2", "uv"), ("vec3", "normal"), ("float", "size"),
      ("vec3", "color1"), ("vec3", "color2")]⟩] := by
  refine .empty_line_cons (defines_block (isHead_ofList (by decide)) ?_)
  repeat with_reducible apply Nested.line (by decide)
  exact nested_nil

theorem defines_noise : Defines (chunk Pattern.noise)
    [⟨"vec3", "noise3d", [("vec3", "pos"), ("vec3", "normal"), ("float", "scale"),
      ("float", "time")]⟩] := by
  refine .empty_line_cons (defines_block (isHead_ofList (by decide)) ?_)
  repeat with_reducible apply Nested.line (by decide)
  exact nested_nil

theorem defines_noisePlanar : Defines (chunk Pattern.noisePlanar)
    [⟨"vec3", "noise2d", [("vec2", "st"), ("vec3", "nor"), ("float", "scale"),
      ("float", "time")]⟩] := by
  refine .empty_line_cons (defines_block (isHead_ofList (by decide)) ?_)
  repeat with_reducible apply Nested.line (by decide)
  exact nested_nil

theorem defines_truchet : Defines (chunk Pattern.truchet)
    [⟨"vec3", "truchet2d", [("vec2", "st"), ("vec3", "nor"), ("float", "scale"),
      ("vec3", "color")]⟩] := by
  refine .empty_line_cons (defines_block (isHead_ofList (by decide)) ?_)
  repeat with_reducible apply Nested.line (by decide)
  apply Nested.cons (.append (neutral_ofList (by decide)) (neutral_ofList (by decide)))
  repeat with_reducible apply Nested.line (by decide)
  exact nested_nil

theorem defines_dots : Defines (chunk Pattern.dots)
    [⟨"vec3", "dots", [("vec3", "pos"), ("vec3", "nor"), ("float", "scale"),
      ("vec3", "color")]⟩] := by
  refine .empty_line_cons (defines_block (isHead_ofList (by decide)) ?_)
  refine .cons (.append (neutral_ofList ?_) (neutral_ofList ?_)) nested_nil <;> decide

theorem defines_stripes : Defines (chunk Pattern.stripes)
    [⟨"vec3", "stripes", [("vec3", "pos"), ("vec3", "nor"), ("float", "scale"),
      ("vec3", "color")]⟩] := by
  refine .empty_line_cons (defines_block (isHead_ofList (by decide)) ?_)
  refine .cons (.append (neutral_ofList ?_) (neutral_ofList ?_)) nested_nil <;> decide

theorem defines_cellular : Defines (chunk Pattern.cellular)
    [⟨"vec3", "cellular", [("vec3", "pos"), ("vec3", "nor"), ("float", "scale"),
      ("float", "jitter"), ("float", "mode"), ("float", "strength")]⟩] := by
  refine .empty_line_cons (defines_block (isHead_ofList (by decide)) ?_)
  refine .append (.append ?_ (.chain ?_)) ?_
  · repeat with_reducible apply Nested.line (by decide)
    exact nested_nil
  · refine List.forall_mem_cons.mpr ⟨⟨neutral_ofList ?_, .line ?_ nested_nil⟩,
      List.forall_mem_cons.mpr ⟨⟨neutral_ofList ?_, .line ?_ nested_nil⟩,
        List.forall_mem_singleton.mpr ⟨neutral_ofList ?_, .line ?_ nested_nil⟩⟩⟩ <;> decide
  · repeat with_reducible apply Nested.line (by decide)
    exact nested_nil

theorem defines_voronoi : Defines (chunk Pattern.voronoi)
    [⟨"vec3", "voronoi", [("vec3", "pos"), ("vec3", "nor"), ("float", "scale"), ("float", "res"),
      ("float", "time"), ("float", "mode")]⟩] := by
  refine .empty_line_cons (defines_block (isHead_ofList (by decide)) ?_)
  repeat with_reducible apply Nested.line (by decide)
  exact nested_nil

theorem defines_voronoiPlanar : Defines (chunk Pattern.voronoiPlanar)
    [⟨"vec3", "voronoi2d", [("vec2", "st"), ("vec3", "nor"), ("float", "scale"), ("float", "res"),
      ("float", "time"), ("float", "mode")]⟩] := by
  refine .empty_line_cons (defines_block (isHead_ofList (by decide)) ?_)
  repeat with_reducible apply Nested.line (by decide)
  exact nested_nil

/-! ## Helpers -/

theorem defines_simplex : Defines (chunk Noise.simplex)
    [⟨"vec3", "snoise_mod289", [("vec3", "x")]⟩,
      ⟨"vec4", "snoise_mod289", [("vec4", "x")]⟩,
      ⟨"vec4", "snoise_permute", [("vec4", "x")]⟩,
      ⟨"vec4", "snoise_taylorInvSqrt", [("vec4", "r")]⟩,
      ⟨"float", "snoise", [("vec3", "v")]⟩] := by
  apply Defines.empty_line_cons
  iterate 4 apply Defines.oneLine_cons (isHead_ofList (by decide)) (neutral_ofList (by decide))
  refine .empty_line_cons (defines_block (isHead_ofList (by decide)) ?_)
  repeat with_reducible apply Nested.line (by decide)
  apply Nested.cons (.append (neutral_ofList (by decide)) (neutral_ofList (by decide)))
  repeat with_reducible apply Nested.line (by decide)
  apply Nested.cons (.append (neutral_ofList (by decide)) (neutral_ofList (by decide)))
  repeat with_reducible apply Nested.line (by decide)
  apply Nested.cons (.append (neutral_ofList (by decide)) (neutral_ofList (by decide)))
  exact nested_nil

theorem defines_cellDistance : Defines (chunk Noise.cellDistance)
    [⟨"vec3", "worley_hash", [("vec3", "p")]⟩,
      ⟨"vec2", "worley3D", [("vec3", "p"), ("float", "jitter"), ("bool", "manhattanDistance")]⟩] := by
  rw [Noise.cellDistance, List.append_assoc]
  apply Defines.empty_line_cons
  refine .block_append (isHead_ofList (by decide)) ?_
    (.empty_line_cons (defines_block (isHead_ofList (by decide)) ?_))
  · repeat with_reducible apply Nested.line (by decide)
    exact nested_nil
  · refine .append (.append ?_ (.block ?_ (.block ?_ (.block ?_ (.append ?_ (.chain ?_)))))) ?_
    · repeat with_reducible apply Nested.line (by decide)
      exact nested_nil
    · exact neutral_ofList (by decide)
    · exact neutral_ofList (by decide)
    · exact neutral_ofList (by decide)
    · repeat with_reducible apply Nested.line (by decide)
      refine .cons (.append (neutral_ofList ?_) (neutral_ofList ?_)) nested_nil <;> decide
    · refine List.forall_mem_cons.mpr ⟨⟨neutral_ofList ?_, .line ?_ (.line ?_ nested_nil)⟩,
        List.forall_mem_singleton.mpr ⟨neutral_ofList ?_, .line ?_ nested_nil⟩⟩ <;> decide
    · repeat with_reducible apply Nested.line (by decide)
      exact nested_nil

theorem defines_cellPartition : Defines (chunk Noise.cellPartition)
    [⟨"vec3", "voronoi_hash", [("vec3", "p")]⟩,
      ⟨"vec3", "voronoi_3d", [("vec3", "x"), ("float", "_res")]⟩,
      ⟨"vec3", "voronoi_select", [("vec3", "v"), ("float", "mode")]⟩] := by
  simp only [Noise.cellPartition, List.append_assoc]
  apply Defines.empty_line_cons
  refine .block_append (isHead_ofList (by decide)) ?_
    (.empty_line_cons (.block_append (isHead_ofList (by decide)) ?_
      (.empty_line_cons (defines_block (isHead_ofList (by decide)) ?_))))
  · repeat with_reducible apply Nested.line (by decide)
    exact nested_nil
  · refine .append ?_ (.append (.block ?_ (.block ?_ (.block ?_ ?_))) ?_)
    · repeat with_reducible apply Nested.line (by decide)
      exact nested_nil
    · exact neutral_ofList (by decide)
    · exact neutral_ofList (by decide)
    · exact neutral_ofList (by decide)
    · repeat with_reducible apply Nested.line (by decide)
      exact nested_nil
    · repeat with_reducible apply Nested.line (by decide)
      exact nested_nil
  · repeat with_reducible apply Nested.line (by decide)
    exact nested_nil

theorem defines_tileTurn : Defines (chunk Noise.tileTurn)
    [⟨"float", "random_truchet", [("vec2", "_st")]⟩,
      ⟨"vec2", "truchetPattern", [("vec2", "_st"), ("float", "_index")]⟩] := by
  rw [Noise.tileTurn, List.append_assoc]
  apply Defines.empty_line_cons
  refine .block_append (isHead_ofList (by decide)) ?_
    (.empty_line_cons (defines_block (isHead_ofList (by decide)) ?_))
  · repeat with_reducible apply Nested.line (by decide)
    exact nested_nil
  · refine .append (.append ?_ (.chain ?_)) ?_
    · repeat with_reducible apply Nested.line (by decide)
      exact nested_nil
    · refine List.forall_mem_cons.mpr ⟨⟨neutral_ofList ?_, .line ?_ nested_nil⟩,
        List.forall_mem_cons.mpr ⟨⟨neutral_ofList ?_, .line ?_ nested_nil⟩,
          List.forall_mem_singleton.mpr ⟨neutral_ofList ?_, .line ?_ nested_nil⟩⟩⟩ <;>
        decide
    · repeat with_reducible apply Nested.line (by decide)
      exact nested_nil

/-! ## All sources -/

/-- The type of the coordinate that the dispatch function passes on for a variant. -/
def coordinateType : Variant → String
  | .solid => "vec3"
  | .planar => "vec2"

/-- The types of the arguments of an entry function. -/
def argumentTypes (k : Kind) (variant : Variant) : List String :=
  coordinateType variant :: "vec3" :: k.parameters.map fun p => p.type.name

/-- The entry functions of all kinds. -/
def entries : List String :=
  (kinds.flatMap Kind.sources).map Source.entry

theorem nodup_entries : entries.Nodup := by
  decide

variable {k : Kind} {variant : Variant} {s : Source}

/-- A body defines its entry function, and nothing else. -/
theorem defines_body (hk : k ∈ kinds) (hs : k.source? variant = some s) :
    ∃ parameters : List (String × String), parameters.map Prod.fst = argumentTypes k variant ∧
      Defines s.body [⟨"vec3", s.entry, parameters⟩] := by
  simp only [kinds, List.mem_cons, List.not_mem_nil, or_false] at hk
  rcases hk with rfl | rfl | rfl | rfl | rfl | rfl | rfl <;> cases variant <;> cases hs
  · exact ⟨_, rfl, defines_checkers⟩
  · exact ⟨_, rfl, defines_checkersPlanar⟩
  · exact ⟨_, rfl, defines_noise⟩
  · exact ⟨_, rfl, defines_noisePlanar⟩
  · exact ⟨_, rfl, defines_truchet⟩
  · exact ⟨_, rfl, defines_dots⟩
  · exact ⟨_, rfl, defines_stripes⟩
  · exact ⟨_, rfl, defines_cellular⟩
  · exact ⟨_, rfl, defines_voronoi⟩
  · exact ⟨_, rfl, defines_voronoiPlanar⟩

/-- No helper takes the name of an entry function. -/
theorem defines_helper (hk : k ∈ kinds) (hs : k.source? variant = some s) {helper : String}
    (hhelper : helper ∈ s.helpers) :
    ∃ signatures, Defines helper signatures ∧ ∀ d ∈ signatures, d.name ∉ entries := by
  simp only [kinds, List.mem_cons, List.not_mem_nil, or_false] at hk
  rcases hk with rfl | rfl | rfl | rfl | rfl | rfl | rfl <;> cases variant <;> cases hs
  · cases hhelper
  · cases hhelper
  · rw [List.mem_singleton.mp hhelper]
    exact ⟨_, defines_simplex, by decide⟩
  · rw [List.mem_singleton.mp hhelper]
    exact ⟨_, defines_simplex, by decide⟩
  · rw [List.mem_singleton.mp hhelper]
    exact ⟨_, defines_tileTurn, by decide⟩
  · cases hhelper
  · cases hhelper
  · rw [List.mem_singleton.mp hhelper]
    exact ⟨_, defines_cellDistance, by decide⟩
  · rw [List.mem_singleton.mp hhelper]
    exact ⟨_, defines_cellPartition, by decide⟩
  · rw [List.mem_singleton.mp hhelper]
    exact ⟨_, defines_cellPartition, by decide⟩

end SphereTrace.Texture.Builtin
