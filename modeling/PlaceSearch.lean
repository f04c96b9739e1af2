import PlaceSearch.Catalog.Region
import PlaceSearch.Catalog.Territory
import PlaceSearch.Distinct
import PlaceSearch.Fault
import PlaceSearch.Filter.Fault
import PlaceSearch.Filter.Hours
import PlaceSearch.Filter.Selection
import PlaceSearch.Geo.Box
import PlaceSearch.Geo.CellGrid
import PlaceSearch.Geo.Coordinate
import PlaceSearch.Geo.Degrees
import PlaceSearch.Geo.Point
import PlaceSearch.Geo.Polygon
import PlaceSearch.Geo.Wkt
import PlaceSearch.Hex.Boundary
import PlaceSearch.Hex.Icosahedron
import PlaceSearch.Hex.Index
import PlaceSearch.Hex.Lattice
import PlaceSearch.Json.Reader
import PlaceSearch.Json.Token
import PlaceSearch.Json.Tree
import PlaceSearch.Json.Value
import PlaceSearch.Number.Binary
import PlaceSearch.Number.Notation
import PlaceSearch.Number.Reading
import PlaceSearch.Number.Shortest
import PlaceSearch.Query.Condition
import PlaceSearch.Query.Request
import PlaceSearch.Query.Statement
import PlaceSearch.Result.Density
import PlaceSearch.Result.GeoJson
import PlaceSearch.Result.Shade
import PlaceSearch.Result.Summary
import PlaceSearch.Search.Marker
import PlaceSearch.Search.Resolved
import PlaceSearch.Search.Trace
import PlaceSearch.Service.Exchange
import PlaceSearch.Service.Fault
import PlaceSearch.Service.Geocode
import PlaceSearch.Service.Place
import PlaceSearch.Service.Query
import PlaceSearch.Service.Route
import PlaceSearch.Service.Url
import PlaceSearch.Session.Act
import PlaceSearch.Session.Form
import PlaceSearch.Session.Mode
import PlaceSearch.Session.Run
import PlaceSearch.Session.SignIn
import PlaceSearch.Setup
import PlaceSearch.Sql.Fragment
import PlaceSearch.Sql.Identifier
import PlaceSearch.Sql.Literal
import PlaceSearch.Table.Cell
import PlaceSearch.Table.Reply
import PlaceSearch.Text.Blank
import PlaceSearch.Text.CaseData
import PlaceSearch.Text.LetterCase
import PlaceSearch.Proofs.Sql.Literal
import PlaceSearch.Proofs.Sql.Mask
import PlaceSearch.Proofs.Number.Notation
import PlaceSearch.Proofs.Number.Reading
import PlaceSearch.Proofs.Query.Scan
import PlaceSearch.Proofs.Search.Resolved
import PlaceSearch.Proofs.Query.ColumnName
import PlaceSearch.Proofs.Query.Outline
import PlaceSearch.Proofs.Text.Blank
import PlaceSearch.Proofs.Text.Split
import PlaceSearch.Proofs.Geo.Coordinate
import PlaceSearch.Proofs.Geo.Finite
import PlaceSearch.Proofs.Geo.Wkt
import PlaceSearch.Proofs.Text.LetterCase
import PlaceSearch.Proofs.Distinct
import PlaceSearch.Proofs.Search.Region
import PlaceSearch.Proofs.Filter.Selection
import PlaceSearch.Proofs.Search.Trace
import PlaceSearch.Proofs.Session.Run
import PlaceSearch.Proofs.Session.Form
import PlaceSearch.Proofs.Session.History
import PlaceSearch.Proofs.Session.Invariant
import PlaceSearch.Proofs.Session.Protocol
import PlaceSearch.Proofs.Session.Rejection
import PlaceSearch.Proofs.Session.Finite
import PlaceSearch.Proofs.Session.FunctionMode
import PlaceSearch.Proofs.Session.PolygonText
import PlaceSearch.Proofs.Geo.Arc
import PlaceSearch.Proofs.Geo.Exact
import PlaceSearch.Proofs.Geo.Union
import PlaceSearch.Proofs.Sql.Grouping
import PlaceSearch.Proofs.Query.Conjunction
import PlaceSearch.Proofs.Query.Predicates
import PlaceSearch.Proofs.Sql.Token
import PlaceSearch.Proofs.Query.Tokens
import PlaceSearch.Proofs.Query.Reading
import PlaceSearch.Proofs.Query.Clauses
import PlaceSearch.Proofs.Query.References
import PlaceSearch.Proofs.Query.Columns
import PlaceSearch.Proofs.Query.Breakdown
import PlaceSearch.Proofs.Sql.Seam
import PlaceSearch.Proofs.Query.Qualifier
import PlaceSearch.Proofs.Table.Reply
import PlaceSearch.Proofs.Geo.Polygon
import PlaceSearch.Proofs.Geo.Layout
import PlaceSearch.Proofs.Geo.CellGrid
import PlaceSearch.Proofs.Hex.Boundary
import PlaceSearch.Proofs.Result.Layer
import PlaceSearch.Proofs.Result.Column
import PlaceSearch.Proofs.Result.Arrays
import PlaceSearch.Proofs.Result.Rows
import PlaceSearch.Proofs.Result.Density
import PlaceSearch.Proofs.Result.Shade
import PlaceSearch.Proofs.Text.TitleCase
import PlaceSearch.Proofs.Session.RegionTag
import PlaceSearch.Proofs.Geo.Gap
import PlaceSearch.Proofs.Geo.UnionAll
import PlaceSearch.Proofs.Geo.UnionOrder
import PlaceSearch.Proofs.Search.Area
import PlaceSearch.Proofs.Session.Sequence
import PlaceSearch.Proofs.Session.Independence
import PlaceSearch.Proofs.Session.Reset
import PlaceSearch.Proofs.Session.SignIn
import PlaceSearch.Proofs.Sql.ReadBack
import PlaceSearch.Proofs.Geo.Cover
import PlaceSearch.Proofs.Search.Lookup
import PlaceSearch.Proofs.Search.Fit
import PlaceSearch.Proofs.Search.Marker
import PlaceSearch.Proofs.Session.Repetition
import PlaceSearch.Proofs.Geo.Item
import PlaceSearch.Proofs.Geo.Frame
import PlaceSearch.Proofs.Geo.Holes
import PlaceSearch.Proofs.Geo.Dialect
import PlaceSearch.Proofs.Catalog.Selector
import PlaceSearch.Proofs.Query.BareColumn
import PlaceSearch.Proofs.Json.Reader
import PlaceSearch.Proofs.Geo.Line
import PlaceSearch.Proofs.Service.Route
import PlaceSearch.Proofs.Service.Fault
import PlaceSearch.Proofs.Session.Warning
