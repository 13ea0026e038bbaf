import Vitae.Markup.Html
import Vitae.Random.Twister
import Vitae.Checksum.Crc32
import Vitae.Style.Tokens

/-!
Decorations: shapes scattered over the margins of a page. They are drawn from a generator that is
seeded with colours of the palette, so a palette always has the same ones.
-/

namespace Vitae

open Decimal (Binary64 Number intText natText trimFraction)

inductive Shape where
  | circle
  | ring
  | square
  | diamond
  | triangle
  | hexagon
  | dots
  | wave
  | arc
  | cross
  | star
  deriving DecidableEq, Repr

def Shape.word : Shape → String
  | .circle => "circle"
  | .ring => "ring"
  | .square => "square"
  | .diamond => "diamond"
  | .triangle => "triangle"
  | .hexagon => "hexagon"
  | .dots => "dots"
  | .wave => "wave"
  | .arc => "arc"
  | .cross => "cross"
  | .star => "star"

def Shape.all : List Shape :=
  [.circle, .ring, .square, .diamond, .triangle, .hexagon, .dots, .wave, .arc, .cross, .star]

instance : Vocabulary Shape := ⟨Shape.all, Shape.word⟩

namespace Shape

/-- At most two places, without trailing zeros. -/
def coordinate (x : Binary64) : String := trimFraction (x.fixed 2)

/-- A decimal with the given digits after the point. -/
def decimal (negative : Bool) (digits places : Nat) : Binary64 :=
  Binary64.ofDecimal negative digits (-(places : Int))

/-- Cosine and sine of the corners of a hexagon, the first one at -30 degrees. -/
def hexagonCorners : List (Binary64 × Binary64) := [
  (decimal false 8660254037844387 16, decimal true 49999999999999994 17),
  (decimal false 8660254037844387 16, decimal false 49999999999999994 17),
  (decimal false 6123233995736766 32, decimal false 1 0),
  (decimal true 8660254037844387 16, decimal false 49999999999999994 17),
  (decimal true 8660254037844386 16, decimal true 5000000000000001 16),
  (decimal true 18369701987210297 32, decimal true 1 0)]

/-- Cosine and sine of the outer corners of a star, the first one at -90 degrees. -/
def starTips : List (Binary64 × Binary64) := [
  (decimal false 6123233995736766 32, decimal true 1 0),
  (decimal false 9510565162951535 16, decimal true 3090169943749474 16),
  (decimal false 5877852522924731 16, decimal false 8090169943749475 16),
  (decimal true 587785252292473 15, decimal false 8090169943749475 16),
  (decimal true 9510565162951536 16, decimal true 3090169943749473 16)]

/-- Cosine and sine of the inner corners of a star, the first one at -54 degrees. -/
def starNotches : List (Binary64 × Binary64) := [
  (decimal false 5877852522924731 16, decimal true 8090169943749475 16),
  (decimal false 9510565162951535 16, decimal false 3090169943749474 16),
  (decimal false 6123233995736766 32, decimal false 1 0),
  (decimal true 9510565162951535 16, decimal false 3090169943749475 16),
  (decimal true 5877852522924732 16, decimal true 8090169943749473 16)]

/-- The point at a distance from the middle in a direction. -/
def corner (middle radius : Binary64) (direction : Binary64 × Binary64) : Binary64 × Binary64 :=
  (middle + radius * direction.1, middle + radius * direction.2)

def filled (color opacity : String) : List (String × String) :=
  [("fill", color), ("fill-opacity", opacity)]

def stroked (color opacity : String) : List (String × String) :=
  [("fill", "none"), ("stroke", color), ("stroke-width", "2"), ("stroke-opacity", opacity)]

def circleAt (x y radius : Binary64) (paint : List (String × String)) : Html :=
  .selfClosed "circle" ([("cx", coordinate x), ("cy", coordinate y), ("r", coordinate radius)]
    ++ paint)

def polygon (points : List (Binary64 × Binary64)) (paint : List (String × String)) : Html :=
  let texts := points.map fun (x, y) => coordinate x ++ "," ++ coordinate y
  .selfClosed "polygon" (("points", " ".intercalate texts) :: paint)

def path (steps : String) (paint : List (String × String)) : Html :=
  .selfClosed "path" (("d", steps) :: paint)

/-- A coordinate that was given as a value of any kind. -/
def readCoordinate (value : Json) : Checked String :=
  match value with
  | .string _ => .error (.misuse .badValue)
  | value => do return coordinate (← (← Number.ofJson value).toBinary)

/-- The side of the square that a shape is drawn in: as it was written, and as numbers. -/
structure Extent where
  text : String
  side : Binary64
  half : Binary64
  quarter : Binary64
  deriving DecidableEq, Repr

def Extent.ofInt (size : Int) : Extent :=
  let side := Binary64.ofInt size
  ⟨intText size, side, side.divNat 2, side.divNat 4⟩

/-- Whether the side itself is a coordinate of the shape, so that it has to be a number that can be
written as one. -/
def reachesSide : Shape → Bool
  | .circle | .ring | .square | .hexagon | .star => false
  | .diamond | .triangle | .dots | .wave | .arc | .cross => true

/-- The extent of a shape whose size is a value of any kind. A square only repeats its size. -/
def extent (shape : Shape) (size : Json) : Checked Extent :=
  match shape, size with
  | .square, _ => .ok { Extent.ofInt 0 with text := size.plainText }
  | .arc, .string _ => .error (.misuse .badValue)
  | _, _ => do
    let number ← Number.ofJson size
    let half ← number.divNat 2
    let side ← if shape.reachesSide then number.toBinary else pure half
    return ⟨size.plainText, side, half, ← number.divNat 4⟩

/-- A shape in its square, with the opacity as it is written. -/
def draw (shape : Shape) (extent : Extent) (color opacity : String) : List Html :=
  let side := extent.side
  let half := extent.half
  let zero := Binary64.zero
  let fill := filled color opacity
  let stroke := stroked color opacity
  match shape with
  | .circle => [circleAt half half half fill]
  | .ring => [circleAt half half (half - Binary64.ofInt 2) stroke]
  | .square => [.selfClosed "rect" ([("width", extent.text), ("height", extent.text)] ++ fill)]
  | .diamond => [polygon [(half, zero), (side, half), (half, side), (zero, half)] fill]
  | .triangle => [polygon [(half, zero), (side, side), (zero, side)] fill]
  | .hexagon => [polygon (hexagonCorners.map (corner half half)) fill]
  | .dots =>
    let near := side * decimal false 25 2
    let far := side * decimal false 75 2
    let radius := side * decimal false 1 1
    [(near, near), (far, near), (near, far), (far, far)].map fun (x, y) =>
      circleAt x y radius fill
  | .wave =>
    let h := coordinate half
    let quarter := coordinate extent.quarter
    [path ("M0," ++ h ++ " Q" ++ quarter ++ "," ++ quarter ++ " " ++ h ++ "," ++ h ++ " T"
      ++ coordinate side ++ "," ++ h) stroke]
  | .arc =>
    let s := coordinate side
    [path ("M0," ++ s ++ " A" ++ s ++ "," ++ s ++ " 0 0,1 " ++ s ++ ",0") stroke]
  | .cross =>
    let a := coordinate (side * decimal false 35 2)
    let b := coordinate (side * decimal false 65 2)
    let s := coordinate side
    [path ("M" ++ a ++ ",0 H" ++ b ++ " V" ++ a ++ " H" ++ s ++ " V" ++ b ++ " H" ++ b ++ " V" ++ s
      ++ " H" ++ a ++ " V" ++ b ++ " H0 V" ++ a ++ " H" ++ a ++ " Z") fill]
  | .star =>
    let tips := starTips.map (corner half half)
    let notches := starNotches.map (corner half extent.quarter)
    [polygon ((tips.zip notches).flatMap fun (tip, notch) => [tip, notch]) fill]

/-- Draws a shape whose size and opacity are values of any kind; the size is looked at first. -/
def drawAny (shape : Shape) (size : Json) (color : String) (opacity : Json) :
    Checked (List Html) := do
  let extent ← shape.extent size
  return shape.draw extent color (← readCoordinate opacity)

end Shape

/-- The fewest and the most. -/
structure Bounds where
  least : Nat
  most : Nat
  deriving DecidableEq, Repr

namespace DecorationIntensity

def counts : DecorationIntensity → Bounds
  | .none => ⟨0, 0⟩
  | .minimal => ⟨4, 8⟩
  | .moderate => ⟨8, 15⟩
  | .abundant => ⟨15, 25⟩

/-- Sizes in pixels. -/
def sizes : DecorationIntensity → Bounds
  | .none => ⟨0, 0⟩
  | .minimal => ⟨30, 80⟩
  | .moderate => ⟨20, 65⟩
  | .abundant => ⟨15, 50⟩

end DecorationIntensity

def DecorationTheme.shapes : DecorationTheme → List Shape
  | .geometric => [.hexagon, .triangle, .diamond, .square, .cross]
  | .organic => [.circle, .wave, .arc, .dots, .ring]
  | .minimal => [.arc, .ring, .square]
  | .tech => [.hexagon, .dots, .square, .cross, .ring]
  | .creative => [.star, .wave, .triangle, .circle, .diamond]
  | .abstract => Shape.all

/-- A part of the page in per cent of its width and height. -/
structure PageZone where
  left : Int
  right : Int
  top : Int
  bottom : Int
  deriving DecidableEq, Repr

/-- Edges and corners; the middle, where the text is, stays clear. -/
def pageZones : List PageZone := [
  ⟨0, 20, 0, 15⟩, ⟨80, 100, 0, 15⟩, ⟨0, 20, 85, 100⟩, ⟨80, 100, 85, 100⟩, ⟨20, 80, 0, 10⟩,
  ⟨20, 80, 90, 100⟩, ⟨0, 12, 15, 85⟩, ⟨88, 100, 15, 85⟩, ⟨0, 25, 25, 75⟩, ⟨75, 100, 25, 75⟩,
  ⟨25, 75, 0, 20⟩, ⟨25, 75, 80, 100⟩]

structure Decoration where
  shape : Shape
  size : Int
  x : Binary64
  y : Binary64
  rotation : Int
  color : String
  opacity : Binary64
  deriving DecidableEq, Repr

namespace Decoration

/-- A drawing with its middle at a place on the page, all of whose numbers are written. -/
def placed (x y size rotation : String) (drawing : List Html) : Html :=
  let style := "left: " ++ x ++ "%; top: " ++ y ++ "%; width: " ++ size ++ "px; height: " ++ size
    ++ "px; transform: translate(-50%, -50%) rotate(" ++ rotation ++ "deg);"
  .paired "svg" [("class", "cv-decoration"), ("style", style),
      ("viewBox", "0 0 " ++ size ++ " " ++ size), ("xmlns", "http://www.w3.org/2000/svg")]
    drawing

def html (d : Decoration) : Html :=
  placed (Shape.coordinate d.x) (Shape.coordinate d.y) (intText d.size) (intText d.rotation)
    (d.shape.draw (Shape.Extent.ofInt d.size) d.color (Shape.coordinate d.opacity))

/-- A decoration described by an object. Its place is looked at before its shape, and its shape
before its size; size and rotation are written as they were given. -/
def htmlOf (members : List (String × Json)) : Checked Html := do
  let member := fun name => Json.getOrNull name members
  let x ← Shape.readCoordinate (member "x")
  let y ← Shape.readCoordinate (member "y")
  let shape ← Vocabulary.entry (member "shape")
  let drawing ← Shape.drawAny shape (member "size") (member "color").plainText (member "opacity")
  return placed x y (member "size").plainText (member "rotation").plainText drawing

/-- At least 0 and at most 100. -/
def clampPercent (x : Binary64) : Binary64 :=
  let low := if Binary64.zero.lt x then x else Binary64.zero
  let hundred := Binary64.ofInt 100
  if low.lt hundred then low else hundred

/-- A place between two edges, or up to five per cent beside it. -/
def drawPlace (low high : Int) : Draw Binary64 := do
  let place ← Draw.uniform low high
  let shift ← Draw.uniform (-5) 5
  return clampPercent (place + shift)

def drawOne (primary accent : String) (sizes : Bounds) (shapes : List Shape) :
    Draw Decoration := do
  let zone ← Draw.choice ⟨0, 0, 0, 0⟩ pageZones
  let x ← drawPlace zone.left zone.right
  let y ← drawPlace zone.top zone.bottom
  let shape ← Draw.choice .circle shapes
  let size ← Draw.between sizes.least sizes.most
  let rotation ← Draw.below 360
  let color ← Draw.choice primary [primary, accent]
  let light ← Draw.fraction
  return ⟨shape, size, x, y, rotation, color,
    Shape.decimal false 8 2 + light * Shape.decimal false 12 2⟩

def drawMany (one : Draw Decoration) : Nat → Draw (List Decoration)
  | 0 => pure []
  | n + 1 => do
    let first ← one
    return first :: (← drawMany one n)

end Decoration

/-- The colours that decorations are drawn from. They have UTF-8 forms. -/
structure SeedColors where
  primary : String
  accent : String
  secondary : String
  deriving DecidableEq, Repr

namespace SeedColors

/-- The colours of a palette. Text and muted colour have no part in it. -/
def of (palette : Palette Text.Points) : Checked SeedColors := do
  return ⟨← palette.primary.encodable, ← palette.accent.encodable, ← palette.secondary.encodable⟩

def seed (colors : SeedColors) : UInt32 :=
  Checksum.crc32 (Text.Utf8.encode ("|".intercalate
    [colors.primary, colors.accent, colors.secondary]))

def drawAll (colors : SeedColors) (intensity : DecorationIntensity) (theme : DecorationTheme) :
    Draw (List Decoration) := do
  let count ← Draw.between intensity.counts.least intensity.counts.most
  let decorations ← Decoration.drawMany
    (Decoration.drawOne colors.primary colors.accent intensity.sizes theme.shapes) count
  Draw.shuffle decorations

/-- The decorations of colours that can be seeded with. -/
def decorations (colors : SeedColors) (intensity : DecorationIntensity) (theme : DecorationTheme) :
    List Decoration :=
  if intensity.counts.most = 0 then []
  else ((colors.drawAll intensity theme).run (Twister.ofSeed colors.seed)).1

end SeedColors

namespace Decoration

/-- The seed of a palette. A colour without a UTF-8 form cannot be seeded with. -/
def seed (palette : Palette Text.Points) : Checked UInt32 := do
  return (← SeedColors.of palette).seed

/-- The decorations of a palette. There is no need of a seed where there are to be none. -/
def generate (palette : Palette Text.Points) (intensity : DecorationIntensity)
    (theme : DecorationTheme) : Checked (List Decoration) :=
  if intensity.counts.most = 0 then .ok []
  else do return (← SeedColors.of palette).decorations intensity theme

/-- The layer that holds the decorations, if there are any. -/
def layer (decorations : List Decoration) : List Html :=
  if decorations.isEmpty then []
  else
    [.paired "div" [("class", "cv-decorations"), ("aria-hidden", "true")]
      (decorations.map html)]

end Decoration

end Vitae
