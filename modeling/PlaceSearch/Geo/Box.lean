-- SUMMARY: Latitude and longitude boxes on the circle of longitudes: union, smallest cover, center, membership.
import PlaceSearch.Geo.Point

/-!
# Boxes

A box covers the latitudes from `south` to `north` and the longitudes met going
east from `west` to `east`. With `west` greater than `east` it crosses the
meridian at 180 degrees. Longitudes lie on a circle, so joining boxes and
covering points mean looking for the widest gap that may stay outside.
-/

namespace PlaceSearch

structure Box (R : Type) where
  south : R
  west : R
  north : R
  east : R
deriving BEq, DecidableEq

namespace Box

variable {R : Type} [Coordinate R]

open Coordinate

/-- The box between two corners. Latitudes are put in order; longitudes stay as
    given, since their order tells on which side of the globe the box lies. -/
def ofCorners (southWest northEast : Point R) : Box R where
  south := Coordinate.min southWest.lat northEast.lat
  west := southWest.lng
  north := Coordinate.max southWest.lat northEast.lat
  east := northEast.lng

/-- The box that holds one point. -/
def ofPoint (p : Point R) : Box R := ⟨p.lat, p.lng, p.lat, p.lng⟩

/-- Whether the box crosses the meridian at 180 degrees. -/
def crosses (b : Box R) : Bool := lt b.east b.west

/-- Degrees of longitude covered going east. -/
def width (b : Box R) : R :=
  if b.crosses then b.east - b.west + fullTurn else b.east - b.west

/-- Bring a longitude of up to 540 degrees back to at most 180. -/
def normalizeLng (lng : R) : R := if lt halfTurn lng then lng - fullTurn else lng

/-- The middle of the box. -/
def center (b : Box R) : Point R where
  lat := half (b.south + b.north)
  lng := normalizeLng (b.west + half b.width)

/-- Whether the box covers a point. -/
def contains (b : Box R) (p : Point R) : Bool :=
  le b.south p.lat && le p.lat b.north && le (wrap (p.lng - b.west)) b.width

-- ---------------------------------------------------------------------------
-- Union
-- ---------------------------------------------------------------------------

/-- Degrees needed going east from the start of `a` to cover both arcs. -/
def reach (a b : Box R) : R := Coordinate.max a.width (wrap (b.west - a.west) + b.width)

/-- The smallest box that covers both: it starts where one of them starts,
    whichever reaches the end of both sooner. -/
def union (a b : Box R) : Box R :=
  let south := Coordinate.min a.south b.south
  let north := Coordinate.max a.north b.north
  let fromA := reach a b
  let fromB := reach b a
  let (start, span) := if le fromA fromB then (a.west, fromA) else (b.west, fromB)
  if le fullTurn span then ⟨south, ofInt (-180), north, halfTurn⟩
  else ⟨south, start, north, normalizeLng (start + span)⟩

/-- Widen the box to cover a point. -/
def extend (b : Box R) (p : Point R) : Box R := b.union (ofPoint p)

-- ---------------------------------------------------------------------------
-- Covering points
-- ---------------------------------------------------------------------------

/-- An arc without points: its width, its eastern and its western end. -/
structure Gap (R : Type) where
  width : R
  eastEnd : R
  westEnd : R

/-- The widest gap between neighbors of an ascending list, if one is wider than `best`. -/
def widestGap (best : Gap R) : List R → Gap R
  | x :: y :: rest =>
    let gap : Gap R := ⟨y - x, y, x⟩
    widestGap (if lt best.width gap.width then gap else best) (y :: rest)
  | _ => best

/-- The smallest box that covers a point and more points: the circle without the
    widest gap. The gap across 180 degrees is kept open unless another is wider. -/
def covering (first : Point R) (rest : List (Point R)) : Box R :=
  let points := first :: rest
  let south := points.foldl (fun low p => Coordinate.min low p.lat) first.lat
  let north := points.foldl (fun high p => Coordinate.max high p.lat) first.lat
  let lngs := (points.map Point.lng).mergeSort sortsBefore
  let lowest := lngs.head?.getD first.lng
  let highest := lngs.getLast?.getD first.lng
  let gap := widestGap ⟨lowest + fullTurn - highest, lowest, highest⟩ lngs
  ⟨south, gap.eastEnd, north, gap.westEnd⟩

/-- The smallest box that covers all points of a list, if there are any. -/
def ofPoints? : List (Point R) → Option (Box R)
  | [] => none
  | first :: rest => some (covering first rest)

end Box

end PlaceSearch
