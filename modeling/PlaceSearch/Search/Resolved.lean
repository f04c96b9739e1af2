-- SUMMARY: From the area of a search form to the scope of a statement, one way for each kind of area.
import PlaceSearch.Distinct
import PlaceSearch.Geo.Polygon
import PlaceSearch.Query.Request
import PlaceSearch.Search.Trace
import PlaceSearch.Text.LetterCase

/-!
# Resolving areas

A form that lacks an input is not wrong, only incomplete: nothing is asked of
anyone and the user is told what to add. Addresses that cannot be geocoded are
passed over as long as one of them can; a route that cannot be computed is an
error.
-/

namespace PlaceSearch

/-- What a form may lack. -/
inductive Missing where
  | center
  | polygon
  | region
  /-- Regions are named, but none could be geocoded. -/
  | geocodedRegion
  | endpoints
deriving DecidableEq, Repr

def Missing.message : Missing → String
  | .center => "Click a location on the map to set the search center."
  | .polygon => "Draw or paste a polygon to define the search area."
  | .region => "Select a Region Type and enter at least one Region Name."
  | .geocodedRegion => "Could not geocode any of the specified regions."
  | .endpoints => "Select both an origin and a destination for the route."

/-- A scope, or what is missing for one. -/
inductive Resolved (R : Type) where
  | ready (scope : Scope R)
  | incomplete (missing : Missing)
deriving DecidableEq

namespace Resolved

variable {R : Type} [Coordinate R]

/-- Within a distance of the center. -/
def circle (center : Option (Point R)) (meters : Nat) : Resolved R :=
  match center with
  | some c => .ready (.ofCondition (some (.near c meters)) c)
  | none => .incomplete .center

/-- Around the center, with the area left to the density function. -/
def function (center : Option (Point R)) : Resolved R :=
  match center with
  | some c => .ready (.ofCondition none c)
  | none => .incomplete .center

/-- Inside the polygon, which is declared in front of the statement. -/
def polygon (p : Option (Polygon R)) : Resolved R :=
  match p with
  | some p => .ready {
      condition := some .insideArea
      center := p.anchor
      preamble := some (.searchArea p.toText)
      region := none
      bounds := some p.bounds }
  | none => .incomplete .polygon

-- ---------------------------------------------------------------------------
-- Regions
-- ---------------------------------------------------------------------------

/-- The name of a region as it is searched for: trimmed, in title case. -/
def regionName (text : String) : String := Text.titleCase (Text.trim text)

/-- The regions of a search: the tags, then the typed name; blank ones left out
    and each one once. -/
def regionNames (typed : String) (tags : List String) : List String :=
  Distinct.ofList ((tags.map regionName ++ [regionName typed]).filter fun n => !n.isEmpty)

/-- The address by which a region is looked up. -/
def regionAddress (territory name : String) : String := s!"{name}, {territory}"

/-- Look an address up; a failure counts as no match. -/
def lookUp (services : Services R) (address : String) : Traced R (Option (Box R)) :=
  Traced.call (.geocode address) ((services.geocode address).toOption.join)

/-- The union of boxes, from the first to the last. -/
def unionAll : List (Box R) → Option (Box R)
  | [] => none
  | b :: rest => some (rest.foldl Box.union b)

/-- In one of the named regions. Every name is looked up, in order. -/
def region (services : Services R) (column : Option RegionColumn) (typed : String)
    (tags : List String) (territory : String) : Traced R (Resolved R) :=
  match column, regionNames typed tags with
  | none, _ | some _, [] => pure (.incomplete .region)
  | some column, names => do
    let boxes ← Traced.each (fun name => lookUp services (regionAddress territory name)) names
    match unionAll (boxes.filterMap id) with
    | none => return .incomplete .geocodedRegion
    | some bounds =>
      return .ready {
        condition := Condition.ofRegions? column names
        center := bounds.center
        preamble := none
        region := some ⟨column, names⟩
        bounds := some bounds }

-- ---------------------------------------------------------------------------
-- Routes
-- ---------------------------------------------------------------------------

/-- Within a distance of a route, which is declared in front of the statement. -/
def ofRoute (r : Route R) (meters : Nat) : Resolved R :=
  .ready {
    condition := some (.alongRoute meters)
    center := r.bounds.center
    preamble := some (.route r.wkt)
    region := none
    bounds := some r.bounds }

/-- Along the route between two ends. -/
def route (services : Services R) (ends : Endpoints R) (meters : Nat) :
    Traced R (Except Fault (Resolved R)) :=
  match ends.both with
  | none => pure (.ok (.incomplete .endpoints))
  | some (origin, destination) => do
    let answer ← Traced.call (.route origin destination) (services.route origin destination)
    return answer.map fun r => ofRoute r meters

end Resolved

end PlaceSearch
