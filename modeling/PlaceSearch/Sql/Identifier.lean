-- SUMMARY: Names that may stand bare in a statement.

/-!
# Identifiers

Column and field names are written without quotes, so only plain names are
taken: a letter or underscore, then letters, digits and underscores, all ASCII.
-/

namespace PlaceSearch.Sql

/-- A character that may start a name. -/
def isNameStart (c : Char) : Bool := c.isAlpha || c == '_'

/-- A character that may continue a name. -/
def isNamePart (c : Char) : Bool := c.isAlphanum || c == '_'

/-- A plain name. -/
def isName : List Char → Bool
  | [] => false
  | c :: rest => isNameStart c && rest.all isNamePart

/-- A name that has been checked. -/
structure Identifier where
  name : String
  isName : isName name.toList = true
deriving DecidableEq

/-- Check a name. -/
def Identifier.ofString? (name : String) : Option Identifier :=
  if h : Sql.isName name.toList = true then some ⟨name, h⟩ else none

theorem Identifier.ofString?_name (i : Identifier) : ofString? i.name = some i := by
  simp [ofString?, i.isName]

end PlaceSearch.Sql
