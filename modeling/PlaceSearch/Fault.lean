-- SUMMARY: Everything that can go wrong, with one message each.
import PlaceSearch.Filter.Fault
import PlaceSearch.Geo.Wkt
import PlaceSearch.Result.Density
import PlaceSearch.Service.Fault

/-!
# Faults
-/

namespace PlaceSearch

inductive Fault where
  | geometry (fault : GeometryFault)
  | filter (fault : FilterFault)
  | result (fault : ResultFault)
  | service (fault : ServiceFault)
  | setup (text : String)
  | authorization (text : String)
deriving DecidableEq, Repr

def Fault.message : Fault → String
  | .geometry fault => s!"Geometry error: {fault.message}"
  | .filter fault => s!"Filter error: {fault.message}"
  | .result fault => s!"Could not interpret results: {fault.message}"
  | .service fault => fault.message
  | .setup text => s!"Configuration error: {text}"
  | .authorization text => s!"Authorization failed: {text}"

end PlaceSearch
