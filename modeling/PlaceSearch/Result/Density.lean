-- SUMMARY: Density results: hexagons with counts, from parallel arrays or from function rows.
import PlaceSearch.Geo.Wkt
import PlaceSearch.Result.Shade
import PlaceSearch.Table.Reply

/-!
# Density layers

A density query counts places by cell. The cell statement answers with one row
of two parallel arrays, the density function with one row per cell. What cannot
be drawn is left out; arrays that do not belong together are an error.
-/

namespace PlaceSearch

/-- What can be wrong with a result. -/
inductive ResultFault where
  | missingColumn (name : String)
  | mismatchedArrays (indices counts : Nat)
deriving DecidableEq, Repr

def ResultFault.message : ResultFault → String
  | .missingColumn name => s!"Result is missing column '{name}'"
  | .mismatchedArrays indices counts =>
    s!"Index and count arrays differ in length ({indices} vs {counts})"

/-- One cell with its count. -/
structure Hexagon (R : Type) where
  index : Option String
  count : Nat
  ring : List (Point R)
  /-- Some of the places inside. -/
  placeIds : List String
deriving DecidableEq

/-- What is shown for a cell that is pointed at. -/
def Hexagon.tooltip {R : Type} (h : Hexagon R) : String :=
  if h.placeIds.isEmpty then s!"Count: {h.count}"
  else s!"Count: {h.count}\nClick to show sample places"

/-- Cells that are drawn together, colored against the largest count. -/
structure Layer (R : Type) where
  hexagons : List (Hexagon R)
deriving DecidableEq

namespace Layer

variable {R : Type}

/-- The largest count, zero if there are no cells. -/
def maxCount (l : Layer R) : Nat := l.hexagons.foldl (fun m h => max m h.count) 0

def isEmpty (l : Layer R) : Bool := l.hexagons.isEmpty

/-- The fill of a cell. -/
def fill (l : Layer R) (h : Hexagon R) : Color := .ofCount Float h.count l.maxCount

/-- A layer of at least one cell. -/
def ofHexagons? (hexagons : List (Hexagon R)) : Option (Layer R) :=
  if hexagons.isEmpty then none else some ⟨hexagons⟩

/-- What is said when nothing can be drawn. -/
def noCells : String :=
  "Query returned no results. Try a larger search area or different filters."

-- ---------------------------------------------------------------------------
-- Parallel arrays
-- ---------------------------------------------------------------------------

/-- The cell of an index and its count, if the index is one. -/
def hexagonOf? (ringOf : String → Option (List (Point R))) (index count : Cell) :
    Option (Hexagon R) :=
  index.text?.bind fun text => (ringOf text).map fun ring => ⟨some text, count.count, ring, []⟩

/-- The column of a name, or a position for when there is none. -/
def column (t : Table) (name : String) (position : Nat) : Nat :=
  (t.position? name).getD position

/-- The layer of a row of indices and counts. No row, no indices or a leading
    null mean that there is nothing to draw; indices that are no cells are left
    out together with their counts. -/
def ofArrays (ringOf : String → Option (List (Point R))) (t : Table) :
    Except ResultFault (Option (Layer R)) :=
  match t.rows.head? with
  | none => .ok none
  | some row =>
    let cellAt (name : String) (position : Nat) : Option Cell := row[column t name position]?
    match (cellAt "indices" 0).bind Cell.items? with
    | none | some [] | some (.null :: _) => .ok none
    | some indices =>
      match (cellAt "counts" 1).bind Cell.items? with
      | none => .error (.missingColumn "counts")
      | some counts =>
        if indices.length = counts.length then
          .ok (ofHexagons? ((indices.zip counts).filterMap fun (i, c) => hexagonOf? ringOf i c))
        else .error (.mismatchedArrays indices.length counts.length)

-- ---------------------------------------------------------------------------
-- Function rows
-- ---------------------------------------------------------------------------

/-- The columns of a function result, by name or by position. -/
structure FunctionColumns where
  index : Nat
  geography : Nat
  count : Nat
  placeIds : Nat

/-- The columns of a table. -/
def FunctionColumns.ofTable (t : Table) : FunctionColumns where
  index := column t "h3_cell_index" 0
  geography := column t "geography" 1
  count := column t "count" 2
  placeIds := column t "place_ids" 3

variable [Coordinate R]

/-- The cell of a row, if its geography can be read. -/
def hexagonOfRow? (columns : FunctionColumns) (row : List Cell) : Option (Hexagon R) :=
  (row[columns.geography]?.bind Cell.text?).bind fun text =>
    match Wkt.readRing text with
    | .error _ => none
    | .ok ring => some {
        index := row[columns.index]?.bind Cell.text?
        count := (row[columns.count]?.map Cell.count).getD 0
        ring := ring
        placeIds := ((row[columns.placeIds]?.bind Cell.items?).getD []).filterMap Cell.text? }

/-- The layer of a function result. Rows that cannot be read are left out. -/
def ofRows? (t : Table) : Option (Layer R) :=
  ofHexagons? (t.rows.filterMap (hexagonOfRow? (.ofTable t)))

end Layer

end PlaceSearch
