-- SUMMARY: Conditions on places and how they are written in a WHERE clause.
import PlaceSearch.Catalog.Region
import PlaceSearch.Filter.Selection
import PlaceSearch.Geo.Point
import PlaceSearch.Sql.Fragment

/-!
# Conditions

A condition is one conjunct of a search. Areas give one condition, each filter
of a selection gives at most one (attributes one each), in a fixed order: place
types, attributes, rating, status, brand names, brand category, hours.
-/

namespace PlaceSearch

open Sql (Fragment)
open Sql.Fragment (code literal literals)

/-- The bounds of a rating condition; at least one is set. -/
inductive RatingBound where
  | between (min max : Float)
  | atLeast (min : Float)
  | atMost (max : Float)
deriving DecidableEq

inductive Condition (R : Type) where
  /-- A condition given as text. -/
  | verbatim (text : String)
  /-- Within a distance of a point. -/
  | near (center : Point R) (meters : Nat)
  /-- Inside the declared search area. -/
  | insideArea
  /-- Within a distance of the declared route. -/
  | alongRoute (meters : Nat)
  /-- In one of the named regions. -/
  | region (column : RegionColumn) (names : List String)
  /-- The primary type is one of these. -/
  | primaryType (types : List String)
  /-- One of the types of the place is one of these. -/
  | anyType (types : List String)
  | attribute (name : Sql.Identifier)
  | rating (bound : RatingBound)
  | status (status : BusinessStatus)
  | brandName (names : List String)
  | brandCategory (category : String)
  /-- Open across a window; an open bound says nothing. -/
  | hours (start finish : Option ClockTime)
deriving DecidableEq

namespace RatingRange

/-- The bounds that are set and finite. -/
def bound? (r : RatingRange) : Option RatingBound :=
  match r.finite.min, r.finite.max with
  | some min, some max => some (.between min max)
  | some min, none => some (.atLeast min)
  | none, some max => some (.atMost max)
  | none, none => none

end RatingRange

namespace Condition

variable {R : Type} [Coordinate R]

/-- A condition given as text; the empty text is none. -/
def ofText? (text : String) : Option (Condition R) :=
  if text.isEmpty then none else some (.verbatim text)

/-- A region condition, if any region is named. -/
def ofRegions? (column : RegionColumn) (names : List String) : Option (Condition R) :=
  if names.isEmpty then none else some (.region column names)

/-- The condition on place types, if any is selected. -/
def ofPlaceTypes? (types : List String) (primaryTypeOnly : Bool) : Option (Condition R) :=
  if types.isEmpty then none
  else some (if primaryTypeOnly then .primaryType types else .anyType types)

/-- The condition on brand names, if any is selected. -/
def ofBrandNames? (names : List String) : Option (Condition R) :=
  if names.isEmpty then none else some (.brandName names)

/-- The condition on the brand category; an empty one is none. -/
def ofBrandCategory? (category : String) : Option (Condition R) :=
  if category.isEmpty then none else some (.brandCategory category)

-- ---------------------------------------------------------------------------
-- Writing
-- ---------------------------------------------------------------------------

/-- Membership in the types of a place, `'type' IN UNNEST(places.types)`. -/
def typeIn (type : String) : Fragment :=
  literal .single type ++ code " IN UNNEST(places.types)"

/-- A point as an expression, `ST_GEOGPOINT(lng, lat)`. -/
def geogPoint (p : Point R) : Fragment :=
  code s!"ST_GEOGPOINT({Coordinate.render p.lng}, {Coordinate.render p.lat})"

/-- A rating condition. -/
def renderRating : RatingBound → Fragment
  | .between min max =>
    code s!"places.rating BETWEEN {plainNumber min} AND {plainNumber max}"
  | .atLeast min => code s!"places.rating >= {plainNumber min}"
  | .atMost max => code s!"places.rating <= {plainNumber max}"

/-- The condition as it stands in a WHERE clause. Alternatives are in parentheses. -/
def toSql : Condition R → Fragment
  | .verbatim text => code text
  | .near center meters =>
    code "ST_DWITHIN(" ++ geogPoint center ++ code s!", places.point, {meters})"
  | .insideArea => code "ST_CONTAINS(search_area, places.point)"
  | .alongRoute meters => code s!"ST_DWITHIN(route, places.point, {meters})"
  | .region column names =>
    match column.type with
    | .string =>
      code s!"places.{column.field.name} IN (" ++ literals .single names ++ code ")"
    | .array =>
      code s!"EXISTS (SELECT 1 FROM UNNEST(places.{column.field.name}) AS name WHERE name IN (" ++
        literals .single names ++ code "))"
  | .primaryType types =>
    code "places.primary_type IN (" ++ literals .single types ++ code ")"
  | .anyType types =>
    let alternatives := Fragment.join " OR " (types.map typeIn)
    if 1 < types.length then code "(" ++ alternatives ++ code ")" else alternatives
  | .attribute name => code s!"places.{name.name} = TRUE"
  | .rating bound => renderRating bound
  | .status s => code "places.business_status = " ++ literal .single s.render
  | .brandName names => code "brands.name IN (" ++ literals .double names ++ code ")"
  | .brandCategory category => code "brands.category = " ++ literal .double category
  | .hours start finish =>
    Fragment.join " AND "
      ((start.map fun t =>
          code "opening_period.start_time <= TIME " ++ literal .single t.render).toList ++
        (finish.map fun t =>
          code "opening_period.end_time >= TIME " ++ literal .single t.render).toList)

end Condition

-- ---------------------------------------------------------------------------
-- Selections as conditions
-- ---------------------------------------------------------------------------

namespace Selection

variable {R : Type} [Coordinate R]

/-- The conditions of a selection, in the fixed order. -/
def conditions (s : Selection) : List (Condition R) :=
  (Condition.ofPlaceTypes? s.placeTypes s.primaryTypeOnly).toList ++
    s.attributes.map .attribute ++
    (s.rating.bound?.map .rating).toList ++
    (s.status.map .status).toList ++
    (Condition.ofBrandNames? s.brandNames).toList ++
    (s.brandCategory.bind Condition.ofBrandCategory?).toList ++
    (s.effectiveHours.map fun w => .hours w.start w.finish).toList

end Selection

/-- What has to be added to the tables of a query to speak of hours on a day. -/
def hoursSource (day : Weekday) : Fragment :=
  code s!", UNNEST(places.regular_opening_hours.{day.name}) AS opening_period"

namespace FunctionSelection

/-- An entry of the argument, `'key', value`. -/
def entry (key : String) (value : Fragment) : Fragment :=
  literal .single key ++ code ", " ++ value

/-- A list in brackets. -/
def bracketed (items : Fragment) : Fragment := code "[" ++ items ++ code "]"

/-- The entries of the argument of the density function: status, types, rating
    bounds, attributes. -/
def entries (s : FunctionSelection) : List Fragment :=
  let number (x : Float) : Fragment := code (plainNumber x)
  (s.status.map fun status =>
      entry "business_status" (bracketed (literal .single status.render))).toList ++
    (if s.placeTypes.isEmpty then []
      else [entry (if s.primaryTypeOnly then "primary_type" else "types")
        (bracketed (literals .double s.placeTypes))]) ++
    (s.rating.finite.min.map fun x => entry "min_rating" (number x)).toList ++
    (s.rating.finite.max.map fun x => entry "max_rating" (number x)).toList ++
    s.attributes.map fun name => entry name.name (code "TRUE")

end FunctionSelection

end PlaceSearch
