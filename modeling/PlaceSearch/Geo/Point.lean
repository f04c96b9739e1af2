-- SUMMARY: Points on the globe and pairs of route ends.
import PlaceSearch.Geo.Coordinate

/-!
# Points
-/

namespace PlaceSearch

/-- A latitude and a longitude in degrees. -/
structure Point (R : Type) where
  lat : R
  lng : R
deriving BEq, DecidableEq

namespace Point

variable {R : Type} [Coordinate R]

/-- Both coordinates are finite. -/
def isFinite (p : Point R) : Bool := Coordinate.isFinite p.lat && Coordinate.isFinite p.lng

/-- The form `(lat, lng)`, for messages. -/
def render (p : Point R) : String :=
  "(" ++ Coordinate.render p.lat ++ ", " ++ Coordinate.render p.lng ++ ")"

/-- The form `lng lat`, the order of geometry texts. -/
def renderLngLat (p : Point R) : String :=
  Coordinate.render p.lng ++ " " ++ Coordinate.render p.lat

end Point

/-- The two ends of a route, either of which may still be open. -/
structure Endpoints (R : Type) where
  origin : Option (Point R)
  destination : Option (Point R)
deriving BEq, DecidableEq

namespace Endpoints

/-- No end chosen yet. -/
def unset {R : Type} : Endpoints R := ⟨none, none⟩

/-- Both ends, if both are chosen. -/
def both {R : Type} (e : Endpoints R) : Option (Point R × Point R) :=
  e.origin.bind fun o => e.destination.map fun d => (o, d)

end Endpoints

end PlaceSearch
