-- SUMMARY: Grids of cells, as the results of density queries name them: indices, boundaries and rings.
import PlaceSearch.Geo.Point

/-!
# Grids of cells

A density result names cells by index. The grid itself comes from elsewhere: it says
which texts are indices and what the boundary of a cell is. What is drawn is the ring
around a cell, which ends where it starts.
-/

namespace PlaceSearch

/-- A grid of cells. -/
structure CellGrid (R : Type) where
  Index : Type
  /-- The index that a text is, if it is one. -/
  read? : String → Option Index
  /-- The corners around a cell, in order and not repeated at the end. -/
  boundary : Index → List (Point R)

namespace CellGrid

variable {R : Type}

/-- The ring around a cell: its boundary, closed by the first corner. -/
def ring (g : CellGrid R) (i : g.Index) : List (Point R) :=
  g.boundary i ++ (g.boundary i).head?.toList

/-- The ring around the cell that a text names. -/
def ringOf (g : CellGrid R) (text : String) : Option (List (Point R)) := (g.read? text).map g.ring

end CellGrid

end PlaceSearch
