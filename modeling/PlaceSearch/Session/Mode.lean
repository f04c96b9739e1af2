-- SUMMARY: The kinds of search area a form can be in.
import PlaceSearch.Fault

/-!
# Modes
-/

namespace PlaceSearch

inductive Mode where
  | circle
  | polygon
  | region
  | route
  /-- Cells around a center, counted by the density function. -/
  | function
deriving DecidableEq, Repr

namespace Mode

def render : Mode → String
  | .circle => "circle-search"
  | .polygon => "polygon-search"
  | .region => "region-search"
  | .route => "route-search"
  | .function => "h3-function"

/-- Read the name of a mode, in full or its first word. -/
def ofString (text : String) : Except Fault Mode :=
  match text with
  | "circle-search" | "circle" => .ok .circle
  | "polygon-search" | "polygon" => .ok .polygon
  | "region-search" | "region" => .ok .region
  | "route-search" | "route" => .ok .route
  | "h3-function" | "function" => .ok .function
  | other => .error (.setup s!"Invalid demo type selected: '{other}'")

/-- Whether cells are counted by the density function. -/
def isFunction (m : Mode) : Bool := m == .function

/-- The finest resolution on offer in a mode. -/
def maxResolution (m : Mode) : Nat := if m.isFunction then 8 else 12

end Mode

end PlaceSearch
