-- SUMMARY: Sample markers for the places of a cell.
import PlaceSearch.Geo.Box
import PlaceSearch.Result.Density
import PlaceSearch.Search.Trace
import PlaceSearch.Setup

/-!
# Markers

A few of the places of a cell are looked up one by one. Places without a
location and failures are counted and never stop the others.
-/

namespace PlaceSearch

structure Marker (R : Type) where
  placeId : String
  position : Point R
deriving DecidableEq

structure MarkerBatch (R : Type) where
  markers : List (Marker R)
  requested : Nat
  failed : Nat
  withoutLocation : Nat
deriving DecidableEq

/-- What is known of a place: where it is, that it has no location, or that
    asking failed. -/
abbrev Located (R : Type) : Type := Except Fault (Option (Point R))

/-- What is answered for a place, which may depend on the places asked for before
    it, the earliest first. -/
abbrev Locator (R : Type) : Type := List String → String → Located R

namespace MarkerBatch

variable {R : Type}

/-- Nothing asked for. -/
def empty : MarkerBatch R := ⟨[], 0, 0, 0⟩

/-- Take the answer for one place into account. -/
def record (b : MarkerBatch R) (placeId : String) : Located R → MarkerBatch R
  | .ok (some position) => { b with markers := b.markers ++ [⟨placeId, position⟩] }
  | .ok none => { b with withoutLocation := b.withoutLocation + 1 }
  | .error _ => { b with failed := b.failed + 1 }

/-- Look the places up in order, each answer recorded before the next question. -/
def gather (locate : Locator R) (asked : List String) (b : MarkerBatch R) :
    List String → Traced R (MarkerBatch R)
  | [] => pure b
  | id :: rest => do
    let answer ← Traced.call (.locate id) (locate asked id)
    gather locate (asked ++ [id]) (b.record id answer) rest

/-- Look up the first places of a list, up to a limit. -/
def load (locate : Locator R) (placeIds : List String) (limit : Nat) :
    Traced R (MarkerBatch R) :=
  let ids := placeIds.take limit
  gather locate [] { empty with requested := ids.length } ids

/-- The smallest box around all markers. -/
def bounds [Coordinate R] (b : MarkerBatch R) : Option (Box R) :=
  Box.ofPoints? (b.markers.map Marker.position)

/-- What is said before places are looked up. -/
def announcement (count : Nat) : String := s!"Fetching locations for {count} places..."

/-- What is said afterwards: how many places are shown and how many failed. -/
def summary (b : MarkerBatch R) : String :=
  s!"Showing {b.markers.length} sample places." ++
    if 0 < b.failed then s!" {b.failed} could not be loaded." else ""

/-- Load the places of a cell with a status line before and after. Nothing is said
    when there is nothing to look up. -/
def loadCell (locate : Locator R) (defaults : FormDefaults) (cell : Hexagon R) :
    Traced R (MarkerBatch R) := do
  let limit := defaults.markerLimit
  let count := min cell.placeIds.length limit
  if count = 0 then return empty
  Traced.emit (.status .info (announcement count))
  let batch ← load locate cell.placeIds limit
  Traced.emit (.status .success batch.summary)
  return batch

end MarkerBatch

end PlaceSearch
