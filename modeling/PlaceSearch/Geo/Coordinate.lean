-- SUMMARY: What geometry asks of the numbers it is made of.

/-!
# Coordinates

Points, boxes and polygons are written over any `Coordinate` type: degrees that
can be added, compared, halved, brought into one turn, printed and read. The
program runs on `Degrees`; over exact numbers the same definitions show which
properties of the geometry owe nothing to rounding.
-/

namespace PlaceSearch

class Coordinate (R : Type) extends BEq R, Add R, Sub R where
  /-- A whole number of degrees. -/
  ofInt : Int → R
  half : R → R
  le : R → R → Bool
  lt : R → R → Bool
  min : R → R → R
  max : R → R → R
  /-- The remainder by a full turn, from 0 up to 360. -/
  wrap : R → R
  /-- A total order, for sorting; it extends `le` to every pair. -/
  sortsBefore : R → R → Bool
  isFinite : R → Bool
  render : R → String
  read? : String → Option R

namespace Coordinate

variable {R : Type} [Coordinate R]

/-- A turn of 360 degrees. -/
def fullTurn : R := ofInt 360

/-- A turn of 180 degrees, the meridian at which longitudes jump. -/
def halfTurn : R := ofInt 180

/-- A text that reads as a finite coordinate. -/
def readFinite? (text : String) : Option R := (read? text).filter isFinite

end Coordinate

end PlaceSearch
