-- SUMMARY: Geometry texts: polygons written and read, lines written.
import PlaceSearch.Geo.Point
import PlaceSearch.Text.Blank

/-!
# Geometry texts

A polygon is written `POLYGON((lng lat, ...))` with its ring closed. Reading is
permissive: the keyword may be in any letter case and anywhere in the text,
white space is free, and only the first ring counts.
-/

namespace PlaceSearch

/-- What can be wrong with a geometry. -/
inductive GeometryFault where
  /-- A text that is no polygon. -/
  | unreadable (text : String)
  /-- An edit of a polygon where there is none. -/
  | noPolygon
  | badCoordinate (text : String)
  | tooFewVertices (required found : Nat)
  | vertexOutOfRange (index length : Nat)
deriving DecidableEq, Repr

def GeometryFault.message : GeometryFault → String
  | .unreadable text => s!"Invalid WKT polygon: {text}"
  | .noPolygon => "Invalid WKT polygon: no polygon to edit"
  | .badCoordinate text => s!"Invalid coordinate: '{text}'"
  | .tooFewVertices required found =>
    s!"Polygon needs at least {required} vertices, found {found}"
  | .vertexOutOfRange index length =>
    s!"Vertex index {index} out of range for ring of {length}"

namespace Wkt

variable {R : Type} [Coordinate R]

-- ---------------------------------------------------------------------------
-- Writing
-- ---------------------------------------------------------------------------

/-- The vertices with the first one repeated at the end, unless it is there already. -/
def closed (vertices : List (Point R)) : List (Point R) :=
  match vertices.head?, vertices.getLast? with
  | some first, some last => if first != last then vertices ++ [first] else vertices
  | _, _ => vertices

/-- Pairs `lng lat` separated by commas. -/
def renderPairs (points : List (Point R)) : String :=
  ", ".intercalate (points.map Point.renderLngLat)

/-- A polygon, `POLYGON((lng lat, ...))`, with the ring closed. -/
def polygon (vertices : List (Point R)) : String :=
  "POLYGON((" ++ renderPairs (closed vertices) ++ "))"

/-- A line, `LINESTRING(lng lat, ...)`. -/
def lineString (points : List (Point R)) : String :=
  "LINESTRING(" ++ renderPairs points ++ ")"

-- ---------------------------------------------------------------------------
-- Reading
-- ---------------------------------------------------------------------------

/-- Drop a word written in any letter case. -/
def dropWord : List Char → List Char → Option (List Char)
  | [], cs => some cs
  | w :: word, c :: cs => if c.toUpper = w then dropWord word cs else none
  | _ :: _, [] => none

/-- What follows `POLYGON ((` at the front of a text. -/
def afterOpening? (cs : List Char) : Option (List Char) :=
  (dropWord "POLYGON".toList cs).bind fun rest =>
    match rest.dropWhile Text.isBlank with
    | '(' :: '(' :: body => some body
    | _ => none

/-- What follows the first `POLYGON ((` anywhere in a text. -/
def findOpening? : List Char → Option (List Char)
  | [] => none
  | c :: rest => (afterOpening? (c :: rest)).orElse fun _ => findOpening? rest

/-- What precedes the last `))`. -/
def beforeLastClosing? : List Char → Option (List Char)
  | [] => none
  | c :: rest =>
    match beforeLastClosing? rest with
    | some body => some (c :: body)
    | none => if c = ')' ∧ rest.head? = some ')' then some [] else none

/-- What precedes the first `),`: the first of several rings. -/
def firstRing : List Char → List Char
  | ')' :: ',' :: _ => []
  | c :: rest => c :: firstRing rest
  | [] => []

/-- A `lng lat` pair; what stands behind the two numbers is passed over. -/
def readPair? (cs : List Char) : Option (Point R) :=
  let number (paren : Char) (word : List Char) : Option R :=
    Coordinate.readFinite? (String.ofList (Text.stripWhile (· == paren) word))
  match Text.words cs with
  | lng :: lat :: _ =>
    (number '(' lng).bind fun x => (number ')' lat).map fun y => ⟨y, x⟩
  | _ => none

/-- The pairs of a ring, in order. -/
def readPairs : List (List Char) → Except GeometryFault (List (Point R))
  | [] => .ok []
  | pair :: rest =>
    match readPair? pair with
    | some p => (readPairs rest).map (p :: ·)
    | none => .error (.badCoordinate (String.ofList (Text.trimChars pair)))

/-- The start of a text, for messages. -/
def excerpt (text : String) : String :=
  if 64 < text.length then String.ofList (text.toList.take 64) ++ "..." else text

/-- The text between the opening and the closing parentheses, unless it is blank. -/
def body? (text : String) : Option (List Char) :=
  ((findOpening? text.toList).bind beforeLastClosing?).filter fun body =>
    !(Text.trimChars body).isEmpty

/-- The outer ring of a polygon text, exactly as written. -/
def readRing (text : String) : Except GeometryFault (List (Point R)) :=
  match body? text with
  | none => .error (.unreadable (excerpt text))
  | some body => readPairs (Text.splitOn ',' (firstRing body))

end Wkt

end PlaceSearch
