-- SUMMARY: Quoted literals in three quote styles: writing them and scanning past them.

/-!
# Quoted literals

Every text that a user chose enters a statement as a literal. Inside, a
backslash stands before each backslash and before each quote character, so the
text can never end its own literal. `scan` is the reader of that form.
-/

namespace PlaceSearch.Sql

/-- The quote styles. Names of types and regions are single quoted, brands and
    list entries double quoted, geometry texts triple quoted. -/
inductive Quote where
  | single
  | double
  | triple
deriving DecidableEq, Repr

namespace Quote

/-- The character that must be escaped inside. -/
def char : Quote → Char
  | .single => '\''
  | .double | .triple => '"'

/-- What opens and closes the literal. -/
def delimiter : Quote → List Char
  | .single => ['\'']
  | .double => ['"']
  | .triple => ['"', '"', '"']

/-- One character as written inside. -/
def escapeChar (q : Quote) (c : Char) : List Char :=
  if c = '\\' ∨ c = q.char then ['\\', c] else [c]

/-- A text as written inside. -/
def escape (q : Quote) (cs : List Char) : List Char := cs.flatMap q.escapeChar

/-- A text as a literal. -/
def encode (q : Quote) (text : String) : String :=
  String.ofList (q.delimiter ++ q.escape text.toList ++ q.delimiter)

/-- Read a literal after its opening delimiter: its text and what follows the
    first closing delimiter. A backslash takes the next character as it is. -/
def scan (q : Quote) : List Char → Option (List Char × List Char)
  | [] => none
  | c :: rest =>
    if q.delimiter.isPrefixOf (c :: rest) then some ([], (c :: rest).drop q.delimiter.length)
    else if c = '\\' then
      match rest with
      | [] => none
      | e :: rest => (scan q rest).map fun (text, after) => (e :: text, after)
    else (scan q rest).map fun (text, after) => (c :: text, after)

end Quote

end PlaceSearch.Sql
