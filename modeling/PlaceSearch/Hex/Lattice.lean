-- SUMMARY: The hexagonal lattice in three axes: rotation, refinement by seven and by three, plane coordinates.
import PlaceSearch.Number.Binary

/-!
# The hexagonal lattice

A lattice point has coordinates on three axes at 120 degrees. Points that
differ by the same amount on all axes are the same, so the form with a zero on
some axis and no negative coordinate is taken. Refining a grid by seven turns
it by the same small angle one way or the other; refining by three gives the
grid of cell corners.
-/

namespace PlaceSearch.Hex

structure Ijk where
  i : Int
  j : Int
  k : Int
deriving DecidableEq, Repr

namespace Ijk

def add (a b : Ijk) : Ijk := ⟨a.i + b.i, a.j + b.j, a.k + b.k⟩
def sub (a b : Ijk) : Ijk := ⟨a.i - b.i, a.j - b.j, a.k - b.k⟩
def scale (n : Int) (a : Ijk) : Ijk := ⟨n * a.i, n * a.j, n * a.k⟩

/-- The sum of the coordinates. -/
def total (a : Ijk) : Int := a.i + a.j + a.k

/-- The form with least coordinate zero. -/
def normalize (a : Ijk) : Ijk :=
  let low := min a.i (min a.j a.k)
  ⟨a.i - low, a.j - low, a.k - low⟩

/-- The lattice map that takes the unit points of the axes to `x`, `y` and `z`. -/
def combine (x y z : Ijk) (a : Ijk) : Ijk :=
  (((scale a.i x).add (scale a.j y)).add (scale a.k z)).normalize

/-- A sixth of a turn counterclockwise. -/
def rotateCcw : Ijk → Ijk := combine ⟨1, 1, 0⟩ ⟨0, 1, 1⟩ ⟨1, 0, 1⟩

/-- A sixth of a turn clockwise. -/
def rotateCw : Ijk → Ijk := combine ⟨1, 0, 1⟩ ⟨1, 1, 0⟩ ⟨0, 1, 1⟩

/-- The same point on the grid finer by seven, turned counterclockwise. -/
def refineSevenCcw : Ijk → Ijk := combine ⟨3, 0, 1⟩ ⟨1, 3, 0⟩ ⟨0, 1, 3⟩

/-- The same point on the grid finer by seven, turned clockwise. -/
def refineSevenCw : Ijk → Ijk := combine ⟨3, 1, 0⟩ ⟨0, 3, 1⟩ ⟨1, 0, 3⟩

/-- The same point on the grid finer by three, turned counterclockwise. -/
def refineThreeCcw : Ijk → Ijk := combine ⟨2, 0, 1⟩ ⟨1, 2, 0⟩ ⟨0, 1, 2⟩

/-- The same point on the grid finer by three, turned clockwise. -/
def refineThreeCw : Ijk → Ijk := combine ⟨2, 1, 0⟩ ⟨0, 2, 1⟩ ⟨1, 0, 2⟩

/-- The nearest integer to `n / 7`. -/
def nearestSeventh (n : Int) : Int := Int.fdiv (2 * n + 7) 14

/-- The nearest point on the grid coarser by seven, undoing `refineSevenCw`. -/
def coarsenSevenCw (a : Ijk) : Ijk :=
  let i := a.i - a.k
  let j := a.j - a.k
  normalize ⟨nearestSeventh (2 * i + j), nearestSeventh (3 * j - i), 0⟩

/-- The unit step in the direction of a digit; digit zero stays. -/
def unit : Nat → Ijk
  | 1 => ⟨0, 0, 1⟩
  | 2 => ⟨0, 1, 0⟩
  | 3 => ⟨0, 1, 1⟩
  | 4 => ⟨1, 0, 0⟩
  | 5 => ⟨1, 0, 1⟩
  | 6 => ⟨1, 1, 0⟩
  | _ => ⟨0, 0, 0⟩

/-- One step in the direction of a digit. -/
def neighbor (digit : Nat) (a : Ijk) : Ijk := (a.add (unit digit)).normalize

end Ijk

/-- A digit turned clockwise by a sixth. -/
def rotateDigitCw : Nat → Nat
  | 1 => 3
  | 3 => 2
  | 2 => 6
  | 6 => 4
  | 4 => 5
  | 5 => 1
  | d => d

/-- A point of the plane of a face. -/
structure Planar where
  x : Float
  y : Float

/-- The sine of 60 degrees. -/
def sin60 : Float := 0.8660254037844386467637231707529361834714

/-- Plane coordinates of a lattice point, in steps of the lattice. -/
def Ijk.toPlane (a : Ijk) : Planar :=
  let i := floatOfInt (a.i - a.k)
  let j := floatOfInt (a.j - a.k)
  ⟨i - 0.5 * j, j * sin60⟩

end PlaceSearch.Hex
