-- SUMMARY: Driving routes: the exchange, the reply, and the corridor taken from it.
import PlaceSearch.Geo.Box
import PlaceSearch.Geo.Degrees
import PlaceSearch.Geo.Wkt
import PlaceSearch.Service.Exchange

/-!
# Routes
-/

namespace PlaceSearch

open Json (Reader Value)

/-- A route as the corridor of a search. -/
structure Route (R : Type) where
  wkt : String
  path : List (Point R)
  bounds : Box R
deriving DecidableEq

/-- One route of a reply. -/
structure RouteAnswer (R : Type) where
  coordinates : List (Point R)
  low : Point R
  high : Point R
deriving DecidableEq

namespace Route

variable {R : Type} [Coordinate R]

/-- The first route of a reply. -/
def ofAnswers : List (RouteAnswer R) → Except ServiceFault (Route R)
  | [] => .error .noRoutes
  | answer :: _ =>
    if answer.coordinates.isEmpty then
      .error (.malformed "route polyline has no coordinates")
    else
      .ok ⟨Wkt.lineString answer.coordinates, answer.coordinates,
        Box.ofCorners answer.low answer.high⟩

end Route

/-- A point given by latitude and longitude, either of which is zero if it is missing. -/
def latLngReader : Reader (Point Degrees) :=
  .record ["latitude", "longitude"] fun room fields => do
    let [lat, lng] := fields | none
    let lat ← Reader.withDefault .float 0 room lat
    let lng ← Reader.withDefault .float 0 room lng
    return ⟨.ofFloat lat, .ofFloat lng⟩

namespace RouteAnswer

/-- The line of a route, as pairs of longitude and latitude. -/
def lineReader : Reader (List (Point Degrees)) :=
  .record ["coordinates"] fun room fields => do
    let [coordinates] := fields | none
    let pairs ← Reader.required (.list (.pair .float)) room coordinates
    return pairs.map fun (lng, lat) => ⟨.ofFloat lat, .ofFloat lng⟩

/-- The wrapped line of a route. -/
def polylineReader : Reader (List (Point Degrees)) :=
  .record ["geoJsonLinestring"] fun room fields => do
    let [line] := fields | none
    Reader.required lineReader room line

/-- The two corners of a route. -/
def cornersReader : Reader (Point Degrees × Point Degrees) :=
  .record ["low", "high"] fun room fields => do
    let [low, high] := fields | none
    let low ← Reader.required latLngReader room low
    let high ← Reader.required latLngReader room high
    return (low, high)

/-- One route. -/
def reader : Reader (RouteAnswer Degrees) :=
  .record ["polyline", "viewport"] fun room fields => do
    let [polyline, viewport] := fields | none
    let coordinates ← Reader.required polylineReader room polyline
    let (low, high) ← Reader.required cornersReader room viewport
    return ⟨coordinates, low, high⟩

/-- A reply: any number of routes. -/
def replyReader : Reader (List (RouteAnswer Degrees)) :=
  .record ["routes"] fun room fields => do
    let [routes] := fields | none
    Reader.withDefault (.list reader) [] room routes

end RouteAnswer

/-- One end of a route in a request. -/
def waypoint (p : Point Degrees) : Value :=
  .ofMembers [("location", .ofMembers [("latLng", .ofMembers [
    ("latitude", .number (.float p.lat.value)),
    ("longitude", .number (.float p.lng.value))])])]

/-- The request for a driving route that takes traffic into account. -/
def routeRequest (origin destination : Point Degrees) : Value :=
  .ofMembers [
    ("origin", waypoint origin),
    ("destination", waypoint destination),
    ("travelMode", .text "DRIVE"),
    ("routingPreference", .text "TRAFFIC_AWARE"),
    ("polylineEncoding", .text "GEO_JSON_LINESTRING"),
    ("computeAlternativeRoutes", .bool false)]

/-- The parts of a reply that are asked for. -/
def routeMask : String := "routes.polyline.geoJsonLinestring,routes.viewport"

/-- Say of a fault that it is about routes. -/
def aboutRoutes : ServiceFault → ServiceFault
  | .api status message => .api status s!"Routes API request failed: {message}"
  | fault => fault

/-- Compute a route. Without a message of its own a failure shows its status. -/
def routeExchange (address key : String) (origin destination : Point Degrees) :
    Exchange (Route Degrees) where
  request := {
    verb := .post
    target := Url.target address []
    headers := jsonHeader :: keyHeaders key routeMask
    body := some (routeRequest origin destination) }
  read reply :=
    if reply.isSuccess then (reply.decode RouteAnswer.replyReader).bind Route.ofAnswers
    else .error (aboutRoutes (reply.fault (toString reply.status)))

end PlaceSearch
