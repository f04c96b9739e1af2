-- SUMMARY: The corners of a cell on the globe, with the extra corners where a side crosses an edge of the icosahedron.
import PlaceSearch.Geo.CellGrid
import PlaceSearch.Geo.Degrees
import PlaceSearch.Hex.Icosahedron
import PlaceSearch.Hex.Index

/-!
# Cell boundaries

A cell is found on its face by walking down its digits, moved to the neighbor
face if it lies beyond an edge, and its corners are taken on a grid fine enough
to hold them. At odd resolutions a side may cross an edge of the icosahedron;
each half of it is straight on its own face only, so the crossing point becomes
a corner of the boundary.
-/

namespace PlaceSearch.Hex

/-- Odd resolutions are turned against the axes of the face. -/
def isTurned (resolution : Nat) : Bool := resolution % 2 == 1

/-- How many lattice steps of an even resolution make one step of the coarsest. -/
def stepsPerUnit (resolution : Nat) : Int := (Nat.pow 7 (resolution / 2) : Nat)

-- ---------------------------------------------------------------------------
-- Beyond the edge
-- ---------------------------------------------------------------------------

/-- Where a lattice point lies with respect to its face. -/
inductive Place where
  | inside
  | onEdge
  | beyond
deriving DecidableEq, Repr

/-- A point in the lattice beyond an edge. -/
def crossEdge (p : FacePoint) (edge : Edge) (unit : Int) : FacePoint :=
  let (turns, shift) := neighborLattice p.face edge
  let turned := Nat.repeat Ijk.rotateCcw turns p.coord
  ⟨neighborFace p.face edge, (turned.add (shift.scale unit)).normalize⟩

/-- Move a point of an even resolution to the face it lies on. On the corner
    grid, finer by three, points exactly on an edge are told apart. Below a
    pentagon, points in the missing wedge are turned out of it first. -/
def settle (resolution : Nat) (cornerGrid inWedge : Bool) (p : FacePoint) : FacePoint × Place :=
  let unit := (if cornerGrid then 3 else 1) * stepsPerUnit resolution
  let limit := 2 * unit
  if cornerGrid ∧ p.coord.total = limit then (p, .onEdge)
  else if p.coord.total ≤ limit then (p, .inside)
  else
    let edge : Edge :=
      if 0 < p.coord.k then if 0 < p.coord.j then .jk else .ki else .ij
    let apex : Ijk := ⟨limit, 0, 0⟩
    let coord :=
      if edge = .ki ∧ inWedge then (p.coord.sub apex).rotateCw.add apex else p.coord
    let moved := crossEdge ⟨p.face, coord⟩ edge unit
    (moved, if cornerGrid ∧ moved.coord.total = limit then .onEdge else .beyond)

/-- Settle again as long as the point keeps crossing edges, at most five times
    around a corner of the icosahedron. -/
def settleFully (resolution : Nat) (cornerGrid : Bool) : Nat → FacePoint → FacePoint
  | 0, p => p
  | fuel + 1, p =>
    match settle resolution cornerGrid false p with
    | (moved, .beyond) => settleFully resolution cornerGrid fuel moved
    | (moved, _) => moved

-- ---------------------------------------------------------------------------
-- The center of a cell
-- ---------------------------------------------------------------------------

/-- Walk down the digits; `level` is the resolution of the first of them. -/
def descend (level : Nat) (coord : Ijk) : List Nat → Ijk
  | [] => coord
  | d :: rest =>
    let finer := if isTurned level then coord.refineSevenCcw else coord.refineSevenCw
    descend (level + 1) (finer.neighbor d) rest

/-- The digits as seen from the home face: below a pentagon, the wedge next to
    the missing one is turned into its place. -/
def Index.homeDigits (i : Index) : List Nat :=
  if i.isPentagonBase && i.leadingDigit == 5 then i.digits.map rotateDigitCw else i.digits

/-- The face and the lattice point of a cell at its own resolution. -/
def Index.center (i : Index) : FacePoint :=
  let home := homeOf i.base
  let digits := i.homeDigits
  let found : FacePoint := ⟨home.face, descend 1 home.coord digits⟩
  let onHomeFace := !i.isPentagonBase &&
    (i.resolution == 0 || home.coord == (⟨0, 0, 0⟩ : Ijk))
  if onHomeFace then found
  else
    let turned := isTurned i.resolution
    let resolution := if turned then i.resolution + 1 else i.resolution
    let fine : FacePoint :=
      if turned then { found with coord := found.coord.refineSevenCw } else found
    let inWedge := i.isPentagonBase && (digits.find? (· != 0)).getD 0 == 4
    match settle resolution false inWedge fine with
    | (_, .inside) => found
    | (moved, _) =>
      let final := if i.isPentagonBase then settleFully resolution false 10 moved else moved
      if turned then { final with coord := final.coord.coarsenSevenCw } else final

-- ---------------------------------------------------------------------------
-- From a face to the globe
-- ---------------------------------------------------------------------------

def pi : Float := 3.14159265358979323846

/-- Numbers closer to zero than this count as zero. -/
def tiny : Float := 1.0e-16

/-- Bring an angle into one turn, from 0 up to two pi. -/
def positiveAngle (a : Float) : Float :=
  let a := if a < 0 then a + 2 * pi else a
  if 2 * pi ≤ a then a - 2 * pi else a

/-- Bring a longitude in radians between minus pi and pi. -/
def normalizeAngle (a : Float) : Float :=
  if pi < a then a - 2 * pi else if a < -pi then a + 2 * pi else a

/-- Keep a sine or cosine within its range. -/
def clampUnit (x : Float) : Float := if 1 < x then 1 else if x < -1 then -1 else x

/-- The point at an azimuth and a distance from a place, all in radians. -/
def travel (lat lng azimuth distance : Float) : Float × Float :=
  let atPole (lat2 : Float) (lng2 : Float) : Float × Float :=
    if (lat2 - pi / 2).abs < tiny then (pi / 2, 0)
    else if (lat2 + pi / 2).abs < tiny then (-(pi / 2), 0)
    else (lat2, lng2)
  if distance < tiny then (lat, lng)
  else if azimuth < tiny then atPole (lat + distance) (normalizeAngle lng)
  else if (azimuth - pi).abs < tiny then atPole (lat - distance) (normalizeAngle lng)
  else
    let sinLat2 := clampUnit (lat.sin * distance.cos + lat.cos * distance.sin * azimuth.cos)
    let lat2 := sinLat2.asin
    let sinLng := clampUnit (azimuth.sin * distance.sin / lat2.cos)
    let cosLng := clampUnit ((distance.cos - lat.sin * lat2.sin) / lat.cos / lat2.cos)
    atPole lat2 (normalizeAngle (lng + Float.atan2 sinLng cosLng))

/-- The distance of the coarsest lattice step from the face center, seen on the tangent plane. -/
def unitLength : Float := 0.38196601125010500003

/-- The point of the globe at a plane position on the corner grid of an even resolution. -/
def toGlobe (face resolution : Nat) (p : Planar) : Point Degrees :=
  let place := facePlace face
  let r := (p.x * p.x + p.y * p.y).sqrt
  let (lat, lng) :=
    if r < tiny then (place.lat, place.lng)
    else
      let steps := floatOfInt (stepsPerUnit resolution) * 3
      let distance := (r / steps * unitLength).atan
      travel place.lat place.lng (positiveAngle (place.azimuth - Float.atan2 p.y p.x)) distance
  ⟨.ofFloat (lat * (180 / pi)), .ofFloat (lng * (180 / pi))⟩

-- ---------------------------------------------------------------------------
-- Corners
-- ---------------------------------------------------------------------------

/-- The corners of a hexagon around the origin of the corner grid, counterclockwise. -/
def hexagonCorners (turned : Bool) : List Ijk :=
  if turned then
    [⟨5, 4, 0⟩, ⟨1, 5, 0⟩, ⟨0, 5, 4⟩, ⟨0, 1, 5⟩, ⟨4, 0, 5⟩, ⟨5, 0, 1⟩]
  else [⟨2, 1, 0⟩, ⟨1, 2, 0⟩, ⟨0, 2, 1⟩, ⟨0, 1, 2⟩, ⟨1, 0, 2⟩, ⟨2, 0, 1⟩]

/-- The even resolution whose corner grid holds the corners of a cell. -/
def cornerResolution (resolution : Nat) : Nat :=
  if isTurned resolution then resolution + 1 else resolution

/-- The corners of a cell in the lattice of the face of its center. A pentagon
    has the first five of a hexagon. -/
def corners (i : Index) : List FacePoint :=
  let center := i.center
  let turned := isTurned i.resolution
  let onThree := center.coord.refineThreeCcw.refineThreeCw
  let origin := if turned then onThree.refineSevenCw else onThree
  let around := hexagonCorners turned
  (if i.isPentagon then around.take 5 else around).map fun c =>
    ⟨center.face, (origin.add c).normalize⟩

/-- The ends of an edge of the face, in plane coordinates of the corner grid. -/
def edgeEnds (resolution : Nat) (edge : Edge) : Planar × Planar :=
  let limit := floatOfInt (2 * stepsPerUnit resolution)
  let v0 : Planar := ⟨3 * limit, 0⟩
  let v1 : Planar := ⟨-1.5 * limit, 3 * sin60 * limit⟩
  let v2 : Planar := ⟨-1.5 * limit, -3 * sin60 * limit⟩
  match edge with
  | .ij => (v0, v1)
  | .jk => (v1, v2)
  | .ki => (v2, v0)

/-- Where the lines through two pairs of points meet. -/
def intersection (p0 p1 p2 p3 : Planar) : Planar :=
  let s1 : Planar := ⟨p1.x - p0.x, p1.y - p0.y⟩
  let s2 : Planar := ⟨p3.x - p2.x, p3.y - p2.y⟩
  let t := (s2.x * (p0.y - p2.y) - s2.y * (p0.x - p2.x)) / (-s2.x * s1.y + s1.x * s2.y)
  ⟨p0.x + t * s1.x, p0.y + t * s1.y⟩

/-- Plane points nearer to each other than this coincide. -/
def coincide (p q : Planar) : Bool :=
  (p.x - q.x).abs < 1.1920929e-7 && (p.y - q.y).abs < 1.1920929e-7

/-- Every element with its predecessor, the first one with none, and the last
    one again in front of the first at the end. -/
def withPrevious {α : Type} (xs : List α) : List (Option α × α) × Option (α × α) :=
  (((none :: xs.map some).zip xs),
    match xs.getLast?, xs.head? with
    | some last, some first => some (last, first)
    | _, _ => none)

/-- A corner before and after it is moved to the face it lies on. -/
structure Corner where
  raw : FacePoint
  settled : FacePoint
  place : Place

/-- The extra corner of a hexagon between two corners, if the side between them crosses an edge. -/
def hexagonCrossing (center resolution : Nat) (previous current : Corner) :
    Option (Point Degrees) :=
  if current.settled.face = previous.settled.face ∨ previous.place = .onEdge then none
  else
    let p0 := previous.raw.coord.toPlane
    let p1 := current.raw.coord.toPlane
    let other :=
      if previous.settled.face = center then current.settled.face else previous.settled.face
    let (e0, e1) := edgeEnds resolution (edgeTowards center other)
    let meeting := intersection p0 p1 e0 e1
    if coincide p0 meeting ∨ coincide p1 meeting then none
    else some (toGlobe center resolution meeting)

/-- The extra corner of a pentagon between two corners: every side crosses an edge. -/
def pentagonCrossing (resolution : Nat) (previous current : FacePoint) : Point Degrees :=
  let unit := 3 * stepsPerUnit resolution
  let moved := crossEdge current (edgeTowards current.face previous.face) unit
  let (e0, e1) := edgeEnds resolution (edgeTowards moved.face current.face)
  toGlobe moved.face resolution
    (intersection previous.coord.toPlane moved.coord.toPlane e0 e1)

/-- The boundary of a cell, counterclockwise and not closed. -/
def boundary (i : Index) : List (Point Degrees) :=
  let resolution := cornerResolution i.resolution
  let turned := isTurned i.resolution
  let globe (p : FacePoint) : Point Degrees := toGlobe p.face resolution p.coord.toPlane
  if i.isPentagon then
    let settled := (corners i).map (settleFully resolution true 10)
    let (pairs, closing) := withPrevious settled
    let crossing (previous current : FacePoint) : List (Point Degrees) :=
      if turned then [pentagonCrossing resolution previous current] else []
    (pairs.flatMap fun (previous, current) =>
      ((previous.map (crossing · current)).getD []) ++ [globe current]) ++
      ((closing.map fun (last, first) => crossing last first).getD [])
  else
    let settled := (corners i).map fun raw =>
      let (p, place) := settle resolution true false raw
      (⟨raw, p, place⟩ : Corner)
    let (pairs, closing) := withPrevious settled
    let center := i.center.face
    let crossing (previous current : Corner) : List (Point Degrees) :=
      if turned then (hexagonCrossing center resolution previous current).toList else []
    (pairs.flatMap fun (previous, current) =>
      ((previous.map (crossing · current)).getD []) ++ [globe current.settled]) ++
      ((closing.map fun (last, first) => crossing last first).getD [])

/-- The grid on which the program runs. -/
def grid : CellGrid Degrees where
  Index := Index
  read? := Index.ofString?
  boundary := boundary

/-- The ring around a cell. -/
def ring (i : Index) : List (Point Degrees) := grid.ring i

end PlaceSearch.Hex
