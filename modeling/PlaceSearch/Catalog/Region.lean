-- SUMMARY: Region columns: their types, the selectors that name them, and the columns of each country.
import PlaceSearch.Filter.Fault
import PlaceSearch.Sql.Identifier

/-!
# Region columns

Each country offers some columns that hold the names of regions. A column holds
one name or an array of names. A selector is the text `column|TYPE`.
-/

namespace PlaceSearch

/-- Whether a column holds one name or an array of names. -/
inductive ColumnType where
  | string
  | array
deriving DecidableEq, Repr

namespace ColumnType

def render : ColumnType → String
  | .string => "STRING"
  | .array => "ARRAY"

def ofString? (text : String) : Option ColumnType :=
  if text = "STRING" then some .string else if text = "ARRAY" then some .array else none

/-- What is said about a text that is no type. -/
def unknownMessage (text : String) : String := s!"Unknown region data type '{text}'"

end ColumnType

/-- Split at the first `|`. -/
def splitAtBar : List Char → Option (List Char × List Char)
  | [] => none
  | c :: rest =>
    if c = '|' then some ([], rest)
    else (splitAtBar rest).map fun (before, after) => (c :: before, after)

/-- The two halves of a selector. The column name is not checked. -/
def parseSelector? (text : String) : Option (String × ColumnType) :=
  (splitAtBar text.toList).bind fun (column, type) =>
    (ColumnType.ofString? (String.ofList type)).map fun t => (String.ofList column, t)

/-- A column that a search may use. -/
structure RegionColumn where
  field : Sql.Identifier
  type : ColumnType
deriving DecidableEq

namespace RegionColumn

/-- Check a column name. -/
def ofParts (field : String) (type : ColumnType) : Except FilterFault RegionColumn :=
  match Sql.Identifier.ofString? field with
  | some id => .ok ⟨id, type⟩
  | none => .error (.invalidIdentifier field)

/-- Read a selector. -/
def ofSelector (text : String) : Except FilterFault RegionColumn :=
  match parseSelector? text with
  | some (field, type) => ofParts field type
  | none => .error (.invalidIdentifier text)

/-- Write a selector. -/
def selector (c : RegionColumn) : String := c.field.name ++ "|" ++ c.type.render

end RegionColumn

/-- A region column as offered to the user. -/
structure RegionField where
  label : String
  field : String
  type : ColumnType
deriving DecidableEq, Repr

namespace RegionField

/-- The column of a field. -/
def column (f : RegionField) : Except FilterFault RegionColumn :=
  RegionColumn.ofParts f.field f.type

/-- The column of the first administrative level, present in every country. -/
def firstLevel : String := "administrative_area_level_1_name"

private def level1 (label : String) : RegionField := ⟨label, firstLevel, .string⟩
private def level2 (label : String) : RegionField :=
  ⟨label, "administrative_area_level_2_name", .string⟩
private def level3 (label : String) : RegionField :=
  ⟨label, "administrative_area_level_3_name", .string⟩
private def level4 (label : String) : RegionField :=
  ⟨label, "administrative_area_level_4_name", .string⟩
private def localities (label : String) : RegionField := ⟨label, "locality_names", .array⟩
private def postalCodes (label : String) : RegionField := ⟨label, "postal_code_names", .array⟩
private def postalTowns (label : String) : RegionField := ⟨label, "postal_town_names", .array⟩
private def sublocalities (label : String) : RegionField :=
  ⟨label, "sublocality_level_1_names", .array⟩
private def neighborhoods (label : String) : RegionField :=
  ⟨label, "neighborhood_names", .array⟩

/-- The region columns of a country, by its code; other codes have none. -/
def ofCountry : String → List RegionField
  | "au" => [level1 "State / Territory", localities "City / Locality", postalCodes "Postal Code"]
  | "br" => [level1 "State", level2 "City / Municipality", localities "Locality",
      postalCodes "Postal Code", sublocalities "Neighborhood"]
  | "ca" => [level1 "Province / Territory", localities "City / Locality",
      neighborhoods "Neighborhood", postalCodes "Postal Code"]
  | "ch" => [level1 "Canton", level2 "District", localities "Municipality / Locality",
      postalCodes "Postal Code"]
  | "de" => [level1 "State", level3 "District", localities "City / Locality",
      postalCodes "Postal Code", sublocalities "Sublocality / Borough"]
  | "es" => [level1 "Autonomous Community", level2 "Province", localities "City / Locality",
      neighborhoods "Neighborhood", postalCodes "Postal Code"]
  | "fr" => [level1 "Region", level2 "Department", localities "City / Locality",
      postalCodes "Postal Code", sublocalities "Sublocality"]
  | "gb" => [level1 "Country", localities "City / Locality", postalTowns "Postal Town",
      postalCodes "Postal Code"]
  | "id" => [level1 "Province", level2 "Regency / City", level3 "District",
      level4 "Village / Kelurahan", localities "City / Locality", postalCodes "Postal Code"]
  | "in" => [level1 "State", level3 "District", localities "City / Locality",
      postalCodes "Postal Code (PIN)", sublocalities "Sublocality"]
  | "it" => [level1 "Region", level2 "Province", level3 "Municipality (Comune)",
      postalCodes "Postal Code"]
  | "jp" => [level1 "Prefecture", localities "City / Locality", postalCodes "Postal Code",
      sublocalities "Sublocality"]
  | "mx" => [level1 "State", level2 "Municipality", localities "City / Locality",
      postalCodes "Postal Code"]
  | "us" => [level1 "State", level2 "County", localities "City / Locality",
      neighborhoods "Neighborhood", postalCodes "Postal Code"]
  | _ => []

end RegionField

end PlaceSearch
