-- SUMMARY: Details of single places, of which only the location is asked for.
import PlaceSearch.Service.Route

/-!
# Place details
-/

namespace PlaceSearch

open Json (Reader)

structure PlaceDetails (R : Type) where
  id : Option String
  position : Option (Point R)
deriving DecidableEq

/-- Details of a place. -/
def PlaceDetails.reader : Reader (PlaceDetails Degrees) :=
  .record ["id", "location"] fun room fields => do
    let [id, location] := fields | none
    let id ← Reader.optional .text room id
    let location ← Reader.optional latLngReader room location
    return ⟨id, location⟩

/-- The address of a place. -/
def placeAddress (base placeId : String) : String :=
  s!"{Url.withoutTrailingSlashes base}/places/{placeId}"

/-- Find out where a place is; an unknown place has no location. -/
def placeExchange (base key placeId : String) : Exchange (Option (Point Degrees)) where
  request := {
    verb := .get
    target := Url.target (placeAddress base placeId) []
    headers := keyHeaders key "location"
    body := none }
  read reply :=
    if reply.status = 404 then .ok none
    else if reply.isSuccess then (reply.decode PlaceDetails.reader).map PlaceDetails.position
    else .error (reply.fault "Place details request failed.")

end PlaceSearch
