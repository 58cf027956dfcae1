import SphereTrace.Texture.Catalog
import SphereTrace.Texture.Noise
import SphereTrace.Texture.Pattern

/-! # Built-in texture kinds

Seven kinds that need no loading. A helper that two variants share is the same text in both, so a
shader that uses both defines it once.
-/

namespace SphereTrace.Texture

open Glsl (DataType)

namespace Builtin

/-- A text of its own starts with an empty line. -/
def chunk (ls : Glsl.Lines) : String :=
  Glsl.text ("" :: ls)

def source (entry : String) (body : Glsl.Lines) (helpers : List Glsl.Lines) : Source where
  entry
  body := chunk body
  helpers := helpers.map chunk

def float (name : String) (default : Binary32) : Parameter :=
  ⟨name, .float, [default]⟩

/-- A grey colour. -/
def colour (name : String) (level : Binary32) : Parameter :=
  ⟨name, .vec3, [level, level, level]⟩

def checkers : Kind where
  name := "checkers"
  solid := source "checkers" Pattern.checkers []
  planar := source "checkers2d" Pattern.checkersPlanar []
  parameters := [float "size" 5, colour "color1" 1, colour "color2" 0]

def noise : Kind where
  name := "noise"
  solid := source "noise3d" Pattern.noise [Noise.simplex]
  planar := source "noise2d" Pattern.noisePlanar [Noise.simplex]
  parameters := [float "scale" 2, float "time" 1]

def truchet : Kind where
  name := "truchet"
  planar := source "truchet2d" Pattern.truchet [Noise.tileTurn]
  parameters := [float "scale" 10, colour "color" 1]

def dots : Kind where
  name := "dots"
  solid := source "dots" Pattern.dots []
  parameters := [float "scale" 5, colour "color" 1]

def stripes : Kind where
  name := "stripes"
  solid := source "stripes" Pattern.stripes []
  parameters := [float "scale" 5, colour "color" 1]

def cellular : Kind where
  name := "cellular"
  solid := source "cellular" Pattern.cellular [Noise.cellDistance]
  parameters := [float "scale" 1, float "jitter" 1, float "mode" 0, float "strength" 2]

def voronoi : Kind where
  name := "voronoi"
  solid := source "voronoi" Pattern.voronoi [Noise.cellPartition]
  planar := source "voronoi2d" Pattern.voronoiPlanar [Noise.cellPartition]
  parameters := [float "scale" 1, float "res" 100, float "time" 1, float "mode" 0]

/-- All built-in kinds, in catalog order. -/
def kinds : List Kind :=
  [checkers, noise, truchet, dots, stripes, cellular, voronoi]

end Builtin

/-- Adds the built-in kinds whose names are not taken, with the refusals among them. -/
def Catalog.extendBuiltin (c : Catalog) : Catalog × List Error :=
  c.insertMissing Builtin.kinds

def Catalog.builtin : Catalog :=
  Catalog.empty.extendBuiltin.1

end SphereTrace.Texture
