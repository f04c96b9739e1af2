-- SUMMARY: Coordinates in binary64, with a NaN on either side of the numbers.
import PlaceSearch.Geo.Coordinate
import PlaceSearch.Number.Notation
import PlaceSearch.Number.Reading

/-!
# Degrees

A coordinate is a binary64 number. `Float` has one value that is no number, while
a text may ask for two: `nan`, which sorts after all numbers, and `-nan`, which
sorts before them. In every other respect the two are alike.
-/

namespace PlaceSearch

inductive Degrees where
  | ofFloat (x : Float)
  /-- No number, sorted before all numbers. -/
  | belowAll
deriving DecidableEq

namespace Degrees

/-- The number of degrees. -/
def value : Degrees → Float
  | ofFloat x => x
  | belowAll => 0 / 0

/-- The smaller of two; one that is no number gives way, of two equal ones, such
    as the two zeros, the second stays. -/
def smaller (x y : Degrees) : Degrees :=
  if x.value < y.value || y.value.isNaN then x else y

/-- The larger of two, with the same preferences. -/
def larger (x y : Degrees) : Degrees :=
  if y.value < x.value || y.value.isNaN then x else y

/-- The place in the order of all bit patterns by value. -/
def orderKey : Degrees → UInt64
  | ofFloat x =>
    let bits := x.toBits
    if bits >>> 63 == 1 then ~~~bits else bits ||| ((1 : UInt64) <<< 63)
  | belowAll => 0

/-- A decimal text; the sign of what is no number tells on which side it sorts. -/
def read? (text : String) : Option Degrees :=
  (readFloat? text).map fun x =>
    if x.isNaN && (takeSign text.toList).1 then belowAll else ofFloat x

/-- Equality of numbers: the two zeros are equal, what is no number differs from itself. -/
instance : BEq Degrees where
  beq x y := x.value == y.value

instance : Coordinate Degrees where
  add x y := ofFloat (x.value + y.value)
  sub x y := ofFloat (x.value - y.value)
  ofInt i := ofFloat (floatOfInt i)
  half x := ofFloat (x.value / 2)
  le x y := decide (x.value ≤ y.value)
  lt x y := decide (x.value < y.value)
  min := smaller
  max := larger
  wrap x := ofFloat (wrapTurn x.value)
  sortsBefore x y := decide (orderKey x ≤ orderKey y)
  isFinite x := x.value.isFinite
  render x := plainNumber x.value
  read? := read?

end Degrees

end PlaceSearch
