-- SUMMARY: The statements a search can become: counts in four forms, cells, and a function call.
import PlaceSearch.Catalog.Territory
import PlaceSearch.Query.Condition

/-!
# Statements

A statement is a small tree. Counting statements carry the privacy qualifier,
which suppresses small groups; the cell statement groups places by cell and
folds the groups into two parallel arrays; the function call hands everything
to the server. `Statement.toSql` writes the tree.
-/

namespace PlaceSearch

open Sql (Fragment)
open Sql.Fragment (code literal literals)

/-- The forms of a statement. -/
inductive Shape where
  | total
  | perType
  | perBrand
  | perRegion
  | cells
  | function
deriving DecidableEq, Repr

namespace Shape

def render : Shape → String
  | .total => "simple aggregate"
  | .perType => "multi-type breakdown"
  | .perBrand => "brand breakdown"
  | .perRegion => "region breakdown"
  | .cells => "H3 density"
  | .function => "H3 function"

/-- Whether the result is a table of counts rather than of cells. -/
def isCount : Shape → Bool
  | .cells | .function => false
  | _ => true

end Shape

/-- What a statement declares before it asks. -/
inductive Preamble where
  | verbatim (text : String)
  /-- The polygon to search in, as geometry text. -/
  | searchArea (wkt : String)
  /-- The route to search along, as geometry text. -/
  | route (wkt : String)
deriving DecidableEq, Repr

namespace Preamble

/-- A preamble given as text; the empty text is none. -/
def ofText? (text : String) : Option Preamble :=
  if text.isEmpty then none else some (.verbatim text)

/-- Declare a geography variable and set it. -/
def declare (variableName wkt : String) : Fragment :=
  code s!"DECLARE {variableName} GEOGRAPHY; SET {variableName} = ST_GEOGFROMTEXT(" ++
    literal .triple wkt ++ code ");"

def toSql : Preamble → Fragment
  | .verbatim text => code text
  | .searchArea wkt => declare "search_area" wkt
  | .route wkt => declare "route" wkt

end Preamble

/-- Where a statement looks: a table of places, the hours of a day if they
    matter, and the table of brands if they matter. -/
structure Source where
  places : String
  hoursOn : Option Weekday
  brands : Option String
deriving DecidableEq, Repr

/-- The `FROM` clause. -/
def Source.toSql (s : Source) : Fragment :=
  code s!"FROM `{s.places}` places" ++
    ((s.hoursOn.map hoursSource).getD []) ++
    ((s.brands.map fun table => code (", UNNEST(places.brand_ids) AS brand_id " ++
      s!"LEFT JOIN `{table}` brands ON brand_id = brands.id")).getD [])

/-- What a counting statement counts. -/
inductive Counted where
  /-- All places together. -/
  | total
  /-- One column for each place type, and all places together. -/
  | perType (types : List String)
  | perBrand
  /-- One row for each value of a region column. -/
  | perRegion (field : String)
deriving DecidableEq, Repr

namespace Counted

def shape : Counted → Shape
  | .total => .total
  | .perType _ => .perType
  | .perBrand => .perBrand
  | .perRegion _ => .perRegion

/-- The name of the column of a place type: letters and digits stay, the rest
    becomes underscores. -/
def columnStem (type : String) : String :=
  String.ofList (type.toList.map fun c => if c.isAlphanum then c else '_')

/-- The column of a place type. -/
def typeColumn (type : String) : Fragment :=
  code "COUNTIF(" ++ Condition.typeIn type ++ code s!") AS {columnStem type}_count"

/-- The selected columns. -/
def columns : Counted → Fragment
  | .total => code "COUNT(*) AS total_count"
  | .perType types =>
    Fragment.join ",\n  " (types.map typeColumn) ++ code ", COUNT(*) AS total_count"
  | .perBrand => code "brands.name, COUNT(places.id) AS count"
  | .perRegion field => code s!"places.{field} AS region_name, COUNT(*) AS count"

/-- Grouping and order of the rows. -/
def grouping : Counted → Fragment
  | .total | .perType _ => []
  | .perBrand => code "GROUP BY brands.name ORDER BY count DESC"
  | .perRegion _ => code "GROUP BY region_name ORDER BY count DESC"

end Counted

inductive Statement (R : Type) where
  | count (preamble : Option Preamble) (counted : Counted) (source : Source)
      (conditions : List (Condition R))
  | cells (preamble : Option Preamble) (resolution : Nat) (source : Source)
      (conditions : List (Condition R))
  | function (dataset : String) (center : Point R) (meters resolution : Nat)
      (filters : FunctionSelection)
deriving DecidableEq

namespace Statement

variable {R : Type} [Coordinate R]

def shape : Statement R → Shape
  | .count _ counted _ _ => counted.shape
  | .cells .. => .cells
  | .function .. => .function

/-- The qualifier that suppresses small groups. -/
def privacyQualifier : String := "WITH AGGREGATION_THRESHOLD"

/-- The function that finds the cell of a point. -/
def cellOfPoint : String := "`carto-os.carto.H3_FROMGEOGPOINT`"

/-- The table function that counts places per cell. -/
def densityFunction : String := "PLACES_COUNT_PER_H3"

/-- The conditions as a `WHERE` clause. -/
def whereClause (conditions : List (Condition R)) : Fragment :=
  Fragment.whereAll (conditions.map Condition.toSql)

/-- The lines that group places by cell. -/
def cellLines (resolution : Nat) (source : Source) (conditions : List (Condition R)) :
    List Fragment :=
  [code "SELECT",
    code s!"    {cellOfPoint}(places.point, {resolution}) AS h3_index,",
    code "    COUNT(*) AS place_count",
    code "  " ++ source.toSql] ++
  (if conditions.isEmpty then [] else [code "  " ++ whereClause conditions]) ++
  [code "  GROUP BY h3_index"]

/-- The entries of the argument of the density function. -/
def functionEntries (center : Point R) (meters resolution : Nat) (filters : FunctionSelection) :
    List Fragment :=
  [FunctionSelection.entry "geography" (Condition.geogPoint center),
    FunctionSelection.entry "geography_radius" (code (toString meters)),
    FunctionSelection.entry "h3_resolution" (code (toString resolution))] ++
  filters.entries

/-- The statement as written. -/
def toSql : Statement R → Fragment
  | .count preamble counted source conditions =>
    Fragment.spaced [
      (preamble.map Preamble.toSql).getD [],
      code s!"SELECT {privacyQualifier} " ++ counted.columns,
      source.toSql,
      whereClause conditions,
      counted.grouping]
  | .cells preamble resolution source conditions =>
    ((preamble.map fun p => p.toSql ++ code "\n").getD []) ++
      code ("SELECT\n  ARRAY_AGG(h3_index) AS indices,\n  ARRAY_AGG(place_count) AS counts\n" ++
        "FROM (\n  ") ++
      Fragment.join "\n" (cellLines resolution source conditions) ++
      code "\n)\nWHERE h3_index IS NOT NULL"
  | .function dataset center meters resolution filters =>
    code s!"SELECT * FROM `{dataset}.{densityFunction}`(\n  JSON_OBJECT(\n    " ++
      Fragment.join ",\n    " (functionEntries center meters resolution filters) ++
      code "\n  )\n)"

/-- The text of the statement. -/
def render (s : Statement R) : String := s.toSql.render

end Statement

end PlaceSearch
