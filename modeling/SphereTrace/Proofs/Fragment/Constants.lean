import SphereTrace.March.Pixel
import SphereTrace.Proofs.Decimal.Reading
import SphereTrace.Proofs.Fragment.Acceptance
import SphereTrace.Proofs.Glsl.Literals
import SphereTrace.Proofs.Texture.Switch

/-! # The constants of a shader

A shader is fixed by the texts of its request, but for holes that numbers are written into: the
colour of a miss, the bound of the marching loop, and the two distances in the call of the march.
What an accepted request writes there is read back from its shader as the constants of the request,
bit for bit, so the shader marches as the request says.
-/

namespace SphereTrace

/-- A text with holes for numbers: what stands in front of them all, and what stands behind each. -/
structure Template where
  opening : String
  tails : List String

namespace Template

/-- The text with numbers in its holes. -/
def fill (t : Template) (numbers : List String) : String :=
  t.opening ++ String.join (List.zipWith (· ++ ·) numbers t.tails)

/-- Reads the number in front of each text: the longest run of the characters of numbers. -/
def readNumbers? : List String → List Char → Option (List (List Char))
  | [], [] => some []
  | [], _ => none
  | tail :: tails, cs =>
    ((tail.toList.isPrefixOf? (cs.dropWhile isNumeral)).bind (readNumbers? tails)).map
      (cs.takeWhile isNumeral :: ·)

/-- Reads the numbers from the holes of the text. -/
def read? (t : Template) (source : String) : Option (List (List Char)) :=
  (t.opening.toList.isPrefixOf? source.toList).bind (readNumbers? t.tails)

/-- A text that no number goes on into. -/
def Separates (tail : String) : Prop :=
  ∃ c rest, tail.toList = c :: rest ∧ isNumeral c = false

theorem Separates.append {first : String} (h : Separates first) (second : String) :
    Separates (first ++ second) := by
  obtain ⟨c, rest, hfirst, hc⟩ := h
  exact ⟨c, rest ++ second.toList, by rw [String.toList_append, hfirst, List.cons_append], hc⟩

theorem takeWhile_numeral {number tail : List Char} (hnumber : Numeral number)
    {c : Char} (hc : isNumeral c = false) :
    (number ++ c :: tail).takeWhile isNumeral = number := by
  rw [List.takeWhile_append_of_pos hnumber, List.takeWhile_cons_of_neg (by simp [hc]),
    List.append_nil]

theorem dropWhile_numeral {number tail : List Char} (hnumber : Numeral number)
    {c : Char} (hc : isNumeral c = false) :
    (number ++ c :: tail).dropWhile isNumeral = c :: tail := by
  rw [List.dropWhile_append_of_pos hnumber, List.dropWhile_cons_of_neg (by simp [hc])]

theorem readNumbers?_join {numbers tails : List String} (hlength : numbers.length = tails.length)
    (hnumbers : ∀ number ∈ numbers, Numeral number.toList)
    (htails : ∀ tail ∈ tails, Separates tail) :
    readNumbers? tails (String.join (List.zipWith (· ++ ·) numbers tails)).toList =
      some (numbers.map String.toList) := by
  induction tails generalizing numbers with
  | nil =>
      rw [List.length_eq_zero_iff.mp hlength]
      rfl
  | cons tail tails ih =>
      obtain ⟨number, numbers, rfl⟩ := List.exists_cons_of_length_eq_add_one hlength
      obtain ⟨hnumber, hnumbers⟩ := List.forall_mem_cons.mp hnumbers
      obtain ⟨⟨c, rest, htail, hc⟩, htails⟩ := List.forall_mem_cons.mp htails
      have hread := ih (Nat.succ.inj hlength) hnumbers htails
      generalize hothers : (String.join (List.zipWith (· ++ ·) numbers tails)).toList = others
        at hread
      have htext :
          (String.join (List.zipWith (· ++ ·) (number :: numbers) (tail :: tails))).toList =
            number.toList ++ c :: (rest ++ others) := by
        rw [List.zipWith_cons_cons, String.join_cons, String.toList_append, String.toList_append,
          htail, hothers, List.append_assoc, List.cons_append]
      have hprefix : tail.toList.isPrefixOf? (c :: (rest ++ others)) = some others := by
        rw [List.isPrefixOf?_eq_some_iff_append_eq, htail, List.cons_append]
      rw [htext, readNumbers?, takeWhile_numeral hnumber hc, dropWhile_numeral hnumber hc, hprefix,
        Option.bind_some, hread, Option.map_some, List.map_cons]

/-- What is written into the holes is read back. -/
theorem read?_fill {t : Template} {numbers : List String}
    (hlength : numbers.length = t.tails.length)
    (hnumbers : ∀ number ∈ numbers, Numeral number.toList)
    (htails : ∀ tail ∈ t.tails, Separates tail) :
    t.read? (t.fill numbers) = some (numbers.map String.toList) := by
  rw [read?, fill, String.toList_append, List.isPrefixOf?_eq_some_iff_append_eq.mpr rfl,
    Option.bind_some, readNumbers?_join hlength hnumbers htails]

end Template

namespace Fragment

open Ron.Reader (decimal?)
open Template (Separates)
open Texture (readLabel?)

/-- The numbers that a shader is made with. -/
structure Constants where
  march : March.Settings Binary32
  background : Option (Vec3 Binary32)

/-- Reads constants from texts, in the order in which they stand in a shader. -/
def Constants.ofNumbers? : List (List Char) → Option Constants
  | [steps, maxDistance, minDistance] => do
    let march := ⟨← readLabel? steps, ← decimal? minDistance, ← decimal? maxDistance⟩
    return ⟨march, none⟩
  | [x, y, z, steps, maxDistance, minDistance] => do
    let march := ⟨← readLabel? steps, ← decimal? minDistance, ← decimal? maxDistance⟩
    return ⟨march, some ⟨← decimal? x, ← decimal? y, ← decimal? z⟩⟩
  | _ => none

namespace Request

def constants (r : Request) : Constants where
  march := .ofRequest r
  background := r.background

/-- The request with its constants erased, but for whether there is a colour of a miss. -/
def withoutConstants (r : Request) : Request :=
  { r with steps := 0, minDistance := 0, maxDistance := 0,
           background := r.background.map fun _ => ⟨0, 0, 0⟩ }

/-- From behind the colour of a miss up to the bound of the marching loop. -/
def beforeSteps (r : Request) : String :=
  splice r.declarations ++ fixed (Fixed.length8 ++ [""]) ++ splice r.geometries ++
    fixed ["vec2 scene(vec3 p);", ""] ++
    fixed ((Fixed.marchSignature ++ " \x7b") :: Glsl.indent 2 Fixed.marchStart) ++
    "  for( int i = 0; i < "

/-- From behind the bound of the marching loop up to the distances of the march. -/
def afterSteps (r : Request) : String :=
  "; i++ ) \x7b\n" ++
    fixed (Glsl.indent 4 Fixed.marchStep ++ Glsl.indent 2 ["\x7d"] ++
      Glsl.indent 2 Fixed.marchEnd ++ ["\x7d"] ++ [""] ++ Fixed.normal ++ [""] ++ Fixed.camera ++
      [""] ++ Fixed.operations ++ [""]) ++
    splice r.lighting ++ fixed (Fixed.colorFromInt ++ [""]) ++ String.join r.scenePieces ++
    fixed ["out vec4 col;", ""] ++ fixed ["void main() \x7b"] ++
    fixed (Glsl.indent 2 Fixed.aiming) ++ "  vec2 t = raytrace( ro, rd, "

/-- What is behind the distances of the march. -/
def afterDistances (r : Request) : String :=
  " );\n" ++ fixed (Glsl.indent 2 Fixed.shading) ++ splice r.postprocessing ++
    fixed ["  col = vec4( color, 1.0 );", "\x7d"]

/-- The shader with holes for the constants. -/
def template (r : Request) : Template :=
  let march := [r.afterSteps, ", ", r.afterDistances]
  match r.background with
  | none => ⟨fixed Fixed.preamble ++ r.beforeSteps, march⟩
  | some _ =>
    ⟨fixed Fixed.preamble ++ "const vec3 bg = vec3(",
      ", " :: ", " :: (");\n" ++ r.beforeSteps) :: march⟩

theorem template_withoutConstants (r : Request) : r.withoutConstants.template = r.template := by
  cases r with
  | mk declarations geometries preface scene lighting postprocessing steps minDistance maxDistance
      background => cases background <;> rfl

/-- The components of the colour of a miss. -/
def backgroundFloats (r : Request) : List Binary32 :=
  match r.background with
  | none => []
  | some colour => colour.toList

/-- The constants of a shader as they are written, in order. -/
def literals (r : Request) : List String :=
  r.backgroundFloats.map Glsl.floatLiteral ++
    [toString r.steps.toNat, Glsl.floatLiteral r.maxDistance, Glsl.floatLiteral r.minDistance]

/-- Reads the constants from a shader that is made of the texts of the request. -/
def constants? (r : Request) (source : String) : Option Constants :=
  (r.template.read? source).bind Constants.ofNumbers?

theorem text_indent_line {start : String} (hstart : start ≠ "") (rest : String) :
    fixed (Glsl.indent 2 [start ++ rest]) = "  " ++ start ++ (rest ++ "\n") := by
  have hblanks : String.ofList (List.replicate 2 ' ') = "  " := rfl
  have hne : start ++ rest ≠ "" := fun h => hstart (String.append_eq_empty_iff.mp h).1
  simp only [fixed, Glsl.text, Glsl.indent, List.map_cons, List.map_nil, if_neg hne, hblanks,
    String.join_cons, String.join_nil, String.append_empty, String.append_assoc]

theorem text_marchLoop (steps : Nat) :
    fixed (Glsl.indent 2 [Fixed.marchLoop steps ++ " \x7b"]) =
      "  for( int i = 0; i < " ++ (toString steps ++ "; i++ ) \x7b\n") := by
  have hne : "for( int i = 0; i < " ≠ "" := by decide
  have hstart : "  " ++ "for( int i = 0; i < " = "  for( int i = 0; i < " := by decide
  have hend : "; i++ )" ++ (" \x7b" ++ "\n") = "; i++ ) \x7b\n" := by decide
  have hline := text_indent_line hne (toString steps ++ ("; i++ )" ++ " \x7b"))
  rw [hstart, String.append_assoc, String.append_assoc, hend] at hline
  -- Stated, since rewriting with the definition itself would evaluate its texts.
  have hloop : Fixed.marchLoop steps = "for( int i = 0; i < " ++ toString steps ++ "; i++ )" := rfl
  rw [hloop, String.append_assoc, String.append_assoc]
  exact hline

theorem text_marchLine (r : Request) :
    fixed (Glsl.indent 2 [r.marchLine]) =
      "  vec2 t = raytrace( ro, rd, " ++ (Glsl.floatLiteral r.maxDistance ++ (", " ++
        (Glsl.floatLiteral r.minDistance ++ " );\n"))) := by
  have hne : "vec2 t = raytrace( ro, rd, " ≠ "" := by decide
  have hstart : "  " ++ "vec2 t = raytrace( ro, rd, " = "  vec2 t = raytrace( ro, rd, " := by
    decide
  have hend : " );" ++ "\n" = " );\n" := by decide
  have hline := text_indent_line hne
    (Glsl.floatLiteral r.maxDistance ++ (", " ++ (Glsl.floatLiteral r.minDistance ++ " );")))
  rw [hstart, String.append_assoc, String.append_assoc, String.append_assoc, hend] at hline
  have hmarch : r.marchLine = "vec2 t = raytrace( ro, rd, " ++ Glsl.floatLiteral r.maxDistance ++
      ", " ++ Glsl.floatLiteral r.minDistance ++ " );" := rfl
  rw [hmarch, String.append_assoc, String.append_assoc, String.append_assoc]
  exact hline

theorem raytrace_eq (steps : Nat) : Fixed.raytrace steps =
    ((Fixed.marchSignature ++ " \x7b") :: Glsl.indent 2 Fixed.marchStart) ++
      Glsl.indent 2 [Fixed.marchLoop steps ++ " \x7b"] ++
      (Glsl.indent 4 Fixed.marchStep ++ Glsl.indent 2 ["\x7d"] ++ Glsl.indent 2 Fixed.marchEnd ++
        ["\x7d"]) := by
  have hblock : Fixed.raytrace steps = (Fixed.marchSignature ++ " \x7b") ::
      (Glsl.indent 2 (Fixed.marchStart ++ Glsl.block (Fixed.marchLoop steps) Fixed.marchStep ++
        Fixed.marchEnd) ++ ["\x7d"]) := rfl
  rw [hblock, Glsl.indent_append, Glsl.indent_append, Glsl.block, Glsl.indent_blockBy]
  simp only [List.cons_append, List.append_assoc]

theorem text_library (steps : Nat) (others : Glsl.Lines) :
    fixed (Fixed.raytrace steps ++ others) =
      fixed ((Fixed.marchSignature ++ " \x7b") :: Glsl.indent 2 Fixed.marchStart) ++
        ("  for( int i = 0; i < " ++ (toString steps ++ "; i++ ) \x7b\n")) ++
        fixed (Glsl.indent 4 Fixed.marchStep ++ Glsl.indent 2 ["\x7d"] ++
          Glsl.indent 2 Fixed.marchEnd ++ ["\x7d"] ++ others) := by
  rw [← text_marchLoop, raytrace_eq]
  simp only [fixed, Glsl.text_append, String.append_assoc]

/-- All that is behind the colour of a miss. -/
theorem join_drop_pieces (r : Request) : String.join (r.pieces.drop 2) =
    r.beforeSteps ++ (toString r.steps.toNat ++ (r.afterSteps ++
      (Glsl.floatLiteral r.maxDistance ++ (", " ++ (Glsl.floatLiteral r.minDistance ++
        r.afterDistances))))) := by
  have hmain : String.join r.mainPieces = fixed ["void main() \x7b"] ++
      (fixed (Glsl.indent 2 Fixed.aiming) ++ fixed (Glsl.indent 2 [r.marchLine]) ++
        fixed (Glsl.indent 2 Fixed.shading)) ++ splice r.postprocessing ++
      fixed ["  col = vec4( color, 1.0 );", "\x7d"] := by
    simp only [mainPieces, fixed, Glsl.indent_append, Glsl.text_append, String.join_cons,
      String.join_nil, String.append_empty, String.append_assoc]
  have hlibrary := text_library r.steps.toNat
    ([""] ++ Fixed.normal ++ [""] ++ Fixed.camera ++ [""] ++ Fixed.operations ++ [""])
  simp only [← List.append_assoc] at hlibrary
  simp only [pieces, List.cons_append, List.nil_append, List.drop_succ_cons, List.drop_zero,
    String.join_append, String.join_cons, String.join_nil, String.append_empty, hmain,
    text_marchLine, hlibrary]
  delta beforeSteps afterSteps afterDistances
  simp only [String.append_assoc]

theorem backgroundPiece_some (colour : Vec3 Binary32) :
    backgroundPiece (some colour) = "const vec3 bg = vec3(" ++ (Glsl.floatLiteral colour.x ++
      (", " ++ (Glsl.floatLiteral colour.y ++ (", " ++ (Glsl.floatLiteral colour.z ++
        ");\n"))))) := by
  have hstart : "const vec3 bg = " ++ ("vec" ++ (toString 3 ++ "(")) = "const vec3 bg = vec3(" := by
    decide
  have hend : ")" ++ (";" ++ "\n") = ");\n" := by decide
  have hvector : Glsl.vectorLiteral colour.toList = "vec" ++ toString 3 ++ "(" ++
      (Glsl.floatLiteral colour.x ++ ", " ++ Glsl.floatLiteral colour.y ++ ", " ++
        Glsl.floatLiteral colour.z) ++ ")" := rfl
  rw [← hstart, ← hend]
  simp only [backgroundPiece, hvector, fixed, Glsl.text, List.map_cons, List.map_nil,
    String.join_cons, String.join_nil, String.append_empty, String.append_assoc]

/-- The shader is its texts with the constants in the holes. -/
theorem assemble_eq_fill (r : Request) : r.assemble = r.template.fill r.literals := by
  have hpieces : r.pieces = fixed Fixed.preamble :: backgroundPiece r.background ::
      r.pieces.drop 2 := rfl
  rw [assemble, hpieces, String.join_cons, String.join_cons, join_drop_pieces]
  unfold template literals backgroundFloats
  cases r.background with
  | none =>
      simp only [backgroundPiece, Template.fill, List.map_nil, List.nil_append,
        List.zipWith_cons_cons, List.zipWith_nil_left, String.join_cons, String.join_nil,
        String.append_empty, String.empty_append, String.append_assoc]
  | some colour =>
      simp only [backgroundPiece_some, Template.fill, Vec3.toList, List.map_cons, List.map_nil,
        List.cons_append, List.nil_append, List.zipWith_cons_cons, List.zipWith_nil_left,
        String.join_cons, String.join_nil, String.append_empty, String.append_assoc]

theorem length_literals (r : Request) : r.literals.length = r.template.tails.length := by
  unfold template literals backgroundFloats
  cases r.background <;> rfl

theorem numeral_literals (r : Request) : ∀ literal ∈ r.literals, Numeral literal.toList := by
  intro literal hliteral
  rw [literals, List.mem_append] at hliteral
  rcases hliteral with hcolour | hmarch
  · obtain ⟨x, _, rfl⟩ := List.mem_map.mp hcolour
    exact (Glsl.numeral_floatLiteral x).1
  · simp only [List.mem_cons, List.not_mem_nil, or_false] at hmarch
    rcases hmarch with rfl | rfl | rfl
    · exact numeral_toString_nat _
    · exact (Glsl.numeral_floatLiteral _).1
    · exact (Glsl.numeral_floatLiteral _).1

theorem separates_tails (r : Request) : ∀ tail ∈ r.template.tails, Separates tail := by
  have hcomma : Separates ", " := ⟨',', _, rfl, by decide⟩
  -- The first text of each tail decides, so it is brought in front of all others.
  have hafterSteps : Separates r.afterSteps := by
    have hstart : Separates "; i++ ) \x7b\n" := ⟨';', _, rfl, by decide⟩
    delta afterSteps
    simp only [String.append_assoc]
    exact hstart.append _
  have hafterDistances : Separates r.afterDistances := by
    have hstart : Separates " );\n" := ⟨' ', _, rfl, by decide⟩
    delta afterDistances
    simp only [String.append_assoc]
    exact hstart.append _
  have hafterColour : Separates (");\n" ++ r.beforeSteps) :=
    Separates.append ⟨')', _, rfl, by decide⟩ _
  have hmarch : ∀ tail ∈ [r.afterSteps, ", ", r.afterDistances], Separates tail := by
    simp only [List.forall_mem_cons]
    exact ⟨hafterSteps, hcomma, hafterDistances, nofun⟩
  delta template
  cases r.background with
  | none => exact hmarch
  | some _ => exact List.forall_mem_cons.mpr ⟨hcomma, List.forall_mem_cons.mpr ⟨hcomma,
      List.forall_mem_cons.mpr ⟨hafterColour, hmarch⟩⟩⟩

/-- All numbers of a request that are written as float constants. -/
def floats (r : Request) : List Binary32 :=
  r.backgroundFloats ++ [r.maxDistance, r.minDistance]

/-- Finite constants are read back from the shader. -/
theorem constants?_assemble {r : Request} (h : ∀ x ∈ r.floats, x.isFinite = true) :
    r.constants? r.assemble = some r.constants := by
  have hread : ∀ x ∈ r.floats, decimal? (Glsl.floatLiteral x).toList = some x :=
    fun x hx => Glsl.decimal?_floatLiteral (h x hx)
  rw [constants?, assemble_eq_fill,
    Template.read?_fill r.length_literals r.numeral_literals r.separates_tails, Option.bind_some]
  simp only [floats, backgroundFloats, List.forall_mem_append, List.forall_mem_cons] at hread
  unfold literals backgroundFloats constants
  obtain ⟨hcolour, hmax, hmin, _⟩ := hread
  cases hbackground : r.background with
  | none =>
      simp only [List.map_nil, List.map_cons, List.nil_append, Constants.ofNumbers?,
        Texture.readLabel?_toString, hmax, hmin]
      rfl
  | some colour =>
      simp only [hbackground, Vec3.toList, List.forall_mem_cons] at hcolour
      obtain ⟨hx, hy, hz, _⟩ := hcolour
      simp only [Vec3.toList, List.map_nil, List.map_cons, List.cons_append, List.nil_append,
        Constants.ofNumbers?, Texture.readLabel?_toString, hmax, hmin, hx, hy, hz]
      rfl

theorem isFinite_of_mem_floats {r : Request} (hmarches : r.Marches)
    (hbackground : ∀ colour, r.background = some colour → ∀ x ∈ colour.toList, x.isFinite = true) :
    ∀ x ∈ r.floats, x.isFinite = true := by
  unfold floats backgroundFloats
  have hmarch : ∀ x ∈ [r.maxDistance, r.minDistance], x.isFinite = true := by
    simp only [List.forall_mem_cons]
    exact ⟨hmarches.max_finite, hmarches.min_finite, nofun⟩
  cases hcolour : r.background with
  | none => exact hmarch
  | some colour => exact List.forall_mem_append.mpr ⟨hbackground colour hcolour, hmarch⟩

/-- A request is accepted exactly if there is something to see in its scene, its march can end and
its colour of a miss is finite. The shader of an accepted request is its texts with the constants in
the holes, each of them a number as it is written, and they are read back bit for bit. -/
theorem tryAssemble_faithful (r : Request) :
    ((∃ source, r.tryAssemble = .ok source) ↔
      (∃ c ∈ r.scene.toList, Text.isBlank c = false) ∧ r.Marches ∧
        ∀ colour, r.background = some colour → ∀ x ∈ colour.toList, x.isFinite = true) ∧
    ∀ source, r.tryAssemble = .ok source →
      source = r.withoutConstants.template.fill r.literals ∧
      (∀ x ∈ r.floats, Glsl.floatLiteral x = Glsl.positionalRange.render x) ∧
      r.withoutConstants.constants? source = some ⟨.ofRequest r, r.background⟩ := by
  constructor
  · rw [← fault?_eq_none_iff, ← validate_eq_ok_iff]
    exact ⟨fun ⟨_, hsource⟩ => (tryAssemble_eq_ok.mp hsource).1,
      fun hvalid => ⟨r.assemble, tryAssemble_eq_ok.mpr ⟨hvalid, rfl⟩⟩⟩
  · intro source hsource
    obtain ⟨hvalid, rfl⟩ := tryAssemble_eq_ok.mp hsource
    obtain ⟨_, hmarches, hbackground⟩ := fault?_eq_none_iff.mp (validate_eq_ok_iff.mp hvalid)
    have hfinite := isFinite_of_mem_floats hmarches hbackground
    refine ⟨?_, fun x hx => if_pos (hfinite x hx), ?_⟩
    · rw [template_withoutConstants, assemble_eq_fill]
    · rw [constants?, template_withoutConstants]
      exact constants?_assemble hfinite

/-- The shader of a ball in front of a colour tells its six constants. -/
theorem tryAssemble_faithful_ball :
    let r : Request := { scene := "vec2( length( p ) - 1.0, 0.0 )", background := some ⟨0, 0.5, 1⟩ }
    r.tryAssemble = .ok r.assemble ∧ r.literals = ["0.0", "0.5", "1.0", "90", "20.0", "0.001"] ∧
      r.withoutConstants.constants? r.assemble = some ⟨.ofRequest r, some ⟨0, 0.5, 1⟩⟩ := by
  intro r
  have hvalid : r.validate = .ok () := validate_eq_ok_iff.mpr (by decide)
  have haccepted : r.tryAssemble = .ok r.assemble := tryAssemble_eq_ok.mpr ⟨hvalid, rfl⟩
  exact ⟨haccepted, by decide +kernel, ((tryAssemble_faithful r).2 r.assemble haccepted).2.2⟩

end Request

end Fragment

end SphereTrace
