-- SUMMARY: Requests: everything a statement is made from, and the statement.
import PlaceSearch.Geo.Box
import PlaceSearch.Query.Statement

/-!
# Requests

The form of a statement depends on five features of a request only; the first
rule that applies wins. Every request has a statement: whatever a search may
lack has been noticed before.
-/

namespace PlaceSearch

/-- A region column with the names it is searched for. -/
structure RegionMatch where
  column : RegionColumn
  names : List String
deriving DecidableEq

/-- More than one name. -/
def RegionMatch.isMultiple (r : RegionMatch) : Bool := 1 < r.names.length

/-- The area of a search, ready for a statement. -/
structure Scope (R : Type) where
  condition : Option (Condition R)
  /-- Where summaries are anchored. -/
  center : Point R
  preamble : Option Preamble
  region : Option RegionMatch
  /-- What a map should show. -/
  bounds : Option (Box R)
deriving DecidableEq

/-- A scope with a center and at most a condition. -/
def Scope.ofCondition {R : Type} (condition : Option (Condition R)) (center : Point R) : Scope R :=
  ⟨condition, center, none, none, none⟩

/-- What the form of a statement depends on. -/
structure Features where
  cells : Bool
  functionMode : Bool
  /-- Several names of a column that holds one name. -/
  multipleRegions : Bool
  brands : Bool
  placeTypes : Nat
deriving DecidableEq, Repr

/-- The form of a statement. -/
def Features.shape (f : Features) : Shape :=
  if f.cells then
    if f.functionMode then .function else .cells
  else if f.multipleRegions then .perRegion
  else if f.brands then .perBrand
  else if 1 < f.placeTypes then .perType
  else .total

/-- Everything a statement is made from, the territory aside. -/
structure Request (R : Type) where
  scope : Scope R
  selection : Selection
  cells : Bool
  functionMode : Bool
  resolution : Nat
  meters : Nat
deriving DecidableEq

namespace Request

variable {R : Type} [Coordinate R]

def features (r : Request R) : Features where
  cells := r.cells
  functionMode := r.functionMode
  multipleRegions := match r.scope.region with
    | some region => region.isMultiple && region.column.type == .string
    | none => false
  brands := r.selection.usesBrands
  placeTypes := r.selection.placeTypes.length

/-- The source of places, with hours and brands where the selection needs them. -/
def source (r : Request R) (territory : Territory) : Source where
  places := territory.placesTable
  hoursOn := r.selection.effectiveHours.map OpeningWindow.day
  brands := if r.selection.usesBrands then some territory.brandsTable else none

/-- The condition of the area, then those of the selection. -/
def conditions (r : Request R) : List (Condition R) :=
  r.scope.condition.toList ++ r.selection.conditions

/-- The column to group regions by. -/
def regionField (r : Request R) : String :=
  match r.scope.region with
  | some region => region.column.field.name
  | none => "region"

/-- The statement of a request. -/
def statement (r : Request R) (territory : Territory) : Statement R :=
  let count (counted : Counted) : Statement R :=
    .count r.scope.preamble counted (r.source territory) r.conditions
  match r.features.shape with
  | .function =>
    .function territory.functionDataset r.scope.center r.meters r.resolution
      r.selection.forFunction
  | .cells => .cells r.scope.preamble r.resolution (r.source territory) r.conditions
  | .perRegion => count (.perRegion r.regionField)
  | .perBrand => count .perBrand
  | .perType => count (.perType r.selection.placeTypes)
  | .total => count .total

omit [Coordinate R] in
/-- A statement has the form that the features ask for. -/
theorem shape_statement (r : Request R) (territory : Territory) :
    (r.statement territory).shape = r.features.shape := by
  simp only [statement]
  cases h : r.features.shape <;> rfl

end Request

end PlaceSearch
