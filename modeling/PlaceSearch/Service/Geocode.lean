-- SUMMARY: Geocoding replies and the box of the best match.
import PlaceSearch.Geo.Box
import PlaceSearch.Geo.Degrees
import PlaceSearch.Service.Exchange

/-!
# Geocoding
-/

namespace PlaceSearch

open Json (Reader)

/-- One match: its point, and the corners of its box if it has one, south-west first. -/
structure GeocodeMatch (R : Type) where
  location : Point R
  corners : Option (Point R × Point R)
deriving DecidableEq

/-- A reply: a status, matches with the best one first, and a message. -/
structure GeocodeReply (R : Type) where
  status : String
  matched : List (GeocodeMatch R)
  message : Option String
deriving DecidableEq

namespace GeocodeReply

variable {R : Type} [Coordinate R]

/-- The box of a match; without one, its point. -/
def boundsOf (m : GeocodeMatch R) : Box R :=
  match m.corners with
  | some (southWest, northEast) => .ofCorners southWest northEast
  | none => .ofPoint m.location

/-- The box of the best match, if anything matched. -/
def bounds (r : GeocodeReply R) : Except ServiceFault (Option (Box R)) :=
  if r.status = "OK" then .ok (r.matched.head?.map boundsOf)
  else if r.status = "ZERO_RESULTS" then .ok none
  else .error (.geocoding r.status (r.message.getD ""))

end GeocodeReply

namespace GeocodeMatch

/-- A point with both coordinates. -/
def pointReader : Reader (Point Degrees) :=
  .record ["lat", "lng"] fun room fields => do
    let [lat, lng] := fields | none
    let lat ← Reader.required .float room lat
    let lng ← Reader.required .float room lng
    return ⟨.ofFloat lat, .ofFloat lng⟩

/-- The corners of a box, which name the north-east one first. -/
def cornersReader : Reader (Point Degrees × Point Degrees) :=
  .record ["northeast", "southwest"] fun room fields => do
    let [northEast, southWest] := fields | none
    let northEast ← Reader.required pointReader room northEast
    let southWest ← Reader.required pointReader room southWest
    return (southWest, northEast)

/-- The geometry of a match. -/
def geometryReader : Reader (GeocodeMatch Degrees) :=
  .record ["location", "viewport"] fun room fields => do
    let [location, viewport] := fields | none
    let location ← Reader.required pointReader room location
    let corners ← Reader.optional cornersReader room viewport
    return ⟨location, corners⟩

/-- A match; its address may be given and is passed over. -/
def reader : Reader (GeocodeMatch Degrees) :=
  .record ["formatted_address", "geometry"] fun room fields => do
    let [address, geometry] := fields | none
    let _ ← Reader.optional .text room address
    Reader.required geometryReader room geometry

end GeocodeMatch

/-- A reply. -/
def GeocodeReply.reader : Reader (GeocodeReply Degrees) :=
  .record ["status", "results", "error_message"] fun room fields => do
    let [status, results, message] := fields | none
    let status ← Reader.required .text room status
    let results ← Reader.withDefault (.list GeocodeMatch.reader) [] room results
    let message ← Reader.optional .text room message
    return ⟨status, results, message⟩

/-- Look an address up. -/
def geocodeExchange (service key address : String) : Exchange (Option (Box Degrees)) where
  request := {
    verb := .get
    target := Url.target service [("address", address), ("key", key)]
    headers := []
    body := none }
  read reply :=
    if reply.isError then .error (.transport .status)
    else (reply.decode GeocodeReply.reader).bind GeocodeReply.bounds

end PlaceSearch
