-- SUMMARY: Tables of counts as labelled rows.
import PlaceSearch.Geo.Point
import PlaceSearch.Table.Reply
import PlaceSearch.Text.LetterCase

/-!
# Summaries

A counting query becomes rows of labelled values, anchored at the center of the
search.
-/

namespace PlaceSearch

/-- A label for a column: words between underscores, each with a capital. -/
def columnLabel (name : String) : String :=
  let words := (Text.splitOn '_' name.toList).filter fun w => !w.isEmpty
  String.ofList ([' '].intercalate (words.map Text.capitalize))

structure Summary (R : Type) where
  anchor : Point R
  rows : List (List (String × String))
deriving DecidableEq

namespace Summary

variable {R : Type}

/-- The rows of a table, each value under the label of its column. -/
def ofTable (t : Table) (anchor : Point R) : Summary R where
  anchor := anchor
  rows := t.rows.map fun row => (t.fields.map columnLabel).zip (row.map Cell.render)

/-- No rows is a normal outcome: small groups are suppressed. -/
def isEmpty (s : Summary R) : Bool := s.rows.isEmpty

/-- The value under a label in the first row. -/
def valueOf? (s : Summary R) (label : String) : Option String :=
  s.rows.head?.bind fun row => (row.find? fun entry => entry.1 == label).map Prod.snd

/-- What is said when there are no rows. -/
def noRows : String :=
  "Query returned no results.\n(Note: Aggregations may require a minimum count to appear)."

/-- One row, a line for each value. -/
def renderRow (row : List (String × String)) : String :=
  String.join (row.map fun (label, value) => s!"{label}: {value}\n")

/-- All rows, separated by a line of dashes. -/
def render (s : Summary R) : String :=
  if s.rows.isEmpty then noRows else "----\n".intercalate (s.rows.map renderRow)

end Summary

end PlaceSearch
