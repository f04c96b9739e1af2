-- SUMMARY: Editable polygons with at least three vertices.
import PlaceSearch.Geo.Box
import PlaceSearch.Geo.Wkt

/-!
# Polygons

Vertices are kept as given. A ring pasted as text keeps its closing vertex, a
drawn ring has none; writing closes the ring either way.
-/

namespace PlaceSearch

structure Polygon (R : Type) where
  vertices : List (Point R)
  three_le : 3 ≤ vertices.length

namespace Polygon

theorem vertices_ne_nil {R : Type} (p : Polygon R) : p.vertices ≠ [] :=
  List.ne_nil_of_length_pos (Nat.lt_of_lt_of_le (by decide) p.three_le)

variable {R : Type} [Coordinate R]

/-- How many vertices a drawn polygon needs. -/
def minDrawn : Nat := 3

/-- How many coordinates a pasted ring needs, the closing one included. -/
def minPasted : Nat := 4

/-- A polygon drawn on the map: enough vertices, all of them finite. -/
def ofVertices (vertices : List (Point R)) : Except GeometryFault (Polygon R) :=
  if h : minDrawn ≤ vertices.length then
    match vertices.find? fun v => !v.isFinite with
    | some bad => .error (.badCoordinate bad.render)
    | none => .ok ⟨vertices, h⟩
  else .error (.tooFewVertices minDrawn vertices.length)

/-- A polygon pasted as text. -/
def ofText (text : String) : Except GeometryFault (Polygon R) :=
  match Wkt.readRing text with
  | .error fault => .error fault
  | .ok ring =>
    if h : minPasted ≤ ring.length then .ok ⟨ring, Nat.le_of_succ_le h⟩
    else .error (.tooFewVertices minPasted ring.length)

/-- The first vertex, where summaries are anchored. -/
def anchor (p : Polygon R) : Point R :=
  p.vertices.head (List.ne_nil_of_length_pos (Nat.lt_of_lt_of_le (by decide) p.three_le))

/-- The vertices with the ring closed. -/
def ring (p : Polygon R) : List (Point R) := Wkt.closed p.vertices

/-- The polygon as text. -/
def toText (p : Polygon R) : String := Wkt.polygon p.vertices

/-- The smallest box around all vertices. -/
def bounds (p : Polygon R) : Box R := Box.covering p.anchor p.vertices.tail

/-- Move one vertex. -/
def moveVertex (p : Polygon R) (index : Nat) (position : Point R) :
    Except GeometryFault (Polygon R) :=
  if index < p.vertices.length then
    .ok ⟨p.vertices.set index position, by simpa using p.three_le⟩
  else .error (.vertexOutOfRange index p.vertices.length)

/-- Put a vertex in front of the one at `index`, or at the end. -/
def insertVertex (p : Polygon R) (index : Nat) (position : Point R) :
    Except GeometryFault (Polygon R) :=
  if h : index ≤ p.vertices.length then
    .ok ⟨p.vertices.insertIdx index position, by
      rw [List.length_insertIdx_of_le_length h]
      exact Nat.le_succ_of_le p.three_le⟩
  else .error (.vertexOutOfRange index p.vertices.length)

end Polygon

end PlaceSearch
