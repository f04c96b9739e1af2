-- SUMMARY: Density layers as GeoJSON feature collections.
import PlaceSearch.Geo.Degrees
import PlaceSearch.Json.Value
import PlaceSearch.Result.Density

/-!
# GeoJSON

Each cell becomes a polygon feature with its count, fill, places and, if known,
index as properties.
-/

namespace PlaceSearch

open Json (Value)

/-- A natural number. -/
def natValue (n : Nat) : Value := .number (.int n)

/-- A position, longitude first. -/
def Point.toJson (p : Point Degrees) : Value :=
  .array [.number (.float p.lng.value), .number (.float p.lat.value)]

/-- Red, green, blue and opacity. -/
def Color.toJson (c : Color) : Value :=
  .array ([c.red, c.green, c.blue, c.alpha].map natValue)

namespace Layer

/-- One cell as a feature. -/
def feature (l : Layer Degrees) (h : Hexagon Degrees) : Value :=
  .ofMembers [
    ("type", .text "Feature"),
    ("geometry", .ofMembers [
      ("type", .text "Polygon"),
      ("coordinates", .array [.array (h.ring.map Point.toJson)])]),
    ("properties", .ofMembers ([
      ("count", natValue h.count),
      ("fill_color", (l.fill h).toJson),
      ("place_ids", .array (h.placeIds.map .text))] ++
      (h.index.map fun index => ("h3_index", Value.text index)).toList))]

/-- All cells as a feature collection. -/
def toGeoJson (l : Layer Degrees) : Value :=
  .ofMembers [
    ("type", .text "FeatureCollection"),
    ("features", .array (l.hexagons.map l.feature))]

end Layer

end PlaceSearch
