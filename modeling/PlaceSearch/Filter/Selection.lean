-- SUMMARY: The filters of a search form: place types, attributes, rating, status, brands and hours.
import PlaceSearch.Distinct
import PlaceSearch.Filter.Hours
import PlaceSearch.Number.Notation
import PlaceSearch.Sql.Identifier

/-!
# Filter selections

A selection is everything that narrows a search beside its area. Lists keep the
order in which entries were added and hold no entry twice.
-/

namespace PlaceSearch

-- ---------------------------------------------------------------------------
-- Business status
-- ---------------------------------------------------------------------------

/-- Whether a place is in business. -/
inductive BusinessStatus where
  | operational
  | closedTemporarily
  | closedPermanently
deriving DecidableEq, Repr

namespace BusinessStatus

def render : BusinessStatus → String
  | .operational => "OPERATIONAL"
  | .closedTemporarily => "CLOSED_TEMPORARILY"
  | .closedPermanently => "CLOSED_PERMANENTLY"

def ofString (text : String) : Except FilterFault BusinessStatus :=
  if text = "OPERATIONAL" then .ok .operational
  else if text = "CLOSED_TEMPORARILY" then .ok .closedTemporarily
  else if text = "CLOSED_PERMANENTLY" then .ok .closedPermanently
  else .error (.unknownStatus text)

end BusinessStatus

-- ---------------------------------------------------------------------------
-- Rating
-- ---------------------------------------------------------------------------

/-- Bounds for the rating, both included; either may be open. -/
structure RatingRange where
  min : Option Float
  max : Option Float
deriving DecidableEq

namespace RatingRange

/-- No bounds. -/
def unbounded : RatingRange := ⟨none, none⟩

/-- Only the bounds that are finite numbers. -/
def finite (r : RatingRange) : RatingRange :=
  ⟨r.min.filter Float.isFinite, r.max.filter Float.isFinite⟩

/-- From the inputs of a form, where what is not finite has not been entered. -/
def ofInputs (min max : Float) : RatingRange := finite ⟨some min, some max⟩

/-- Neither bound is set. -/
def isUnset (r : RatingRange) : Bool := r.min.isNone && r.max.isNone

end RatingRange

-- ---------------------------------------------------------------------------
-- Selections
-- ---------------------------------------------------------------------------

structure Selection where
  placeTypes : List String
  /-- Look at the primary type of a place only, not at all of its types. -/
  primaryTypeOnly : Bool
  attributes : List Sql.Identifier
  rating : RatingRange
  /-- Any status if none is given. -/
  status : Option BusinessStatus
  brandNames : List String
  brandCategory : Option String
  hours : Option OpeningWindow
deriving DecidableEq

namespace Selection

/-- Nothing selected. -/
def unrestricted : Selection where
  placeTypes := []
  primaryTypeOnly := false
  attributes := []
  rating := .unbounded
  status := none
  brandNames := []
  brandCategory := none
  hours := none

/-- A fresh form: places in business only. -/
def fresh : Selection := { unrestricted with status := some .operational }

/-- Add a trimmed text at the end unless it is empty or there. -/
def addText (xs : List String) (text : String) : List String :=
  let entry := Text.trim text
  if entry.isEmpty then xs else Distinct.add xs entry

def addPlaceType (s : Selection) (text : String) : Selection :=
  { s with placeTypes := addText s.placeTypes text }

def addBrandName (s : Selection) (text : String) : Selection :=
  { s with brandNames := addText s.brandNames text }

/-- Add an attribute such as `has_wifi`, which has to be a plain name. -/
def addAttribute (s : Selection) (name : String) : Except FilterFault Selection :=
  match Sql.Identifier.ofString? name with
  | some id => .ok { s with attributes := Distinct.add s.attributes id }
  | none => .error (.invalidIdentifier name)

/-- Whether brands matter, so that the brands have to be joined in. -/
def usesBrands (s : Selection) : Bool := !s.brandNames.isEmpty || s.brandCategory.isSome

/-- The window, if it restricts anything. -/
def effectiveHours (s : Selection) : Option OpeningWindow :=
  s.hours.filter OpeningWindow.isEffective

end Selection

/-- What the density function understands of a selection. Brands and hours have
    no place here, so they cannot enter a function call. -/
structure FunctionSelection where
  placeTypes : List String
  primaryTypeOnly : Bool
  attributes : List Sql.Identifier
  rating : RatingRange
  status : Option BusinessStatus
deriving DecidableEq

/-- The part of a selection that the density function understands. -/
def Selection.forFunction (s : Selection) : FunctionSelection where
  placeTypes := s.placeTypes
  primaryTypeOnly := s.primaryTypeOnly
  attributes := s.attributes
  rating := s.rating
  status := s.status

end PlaceSearch
