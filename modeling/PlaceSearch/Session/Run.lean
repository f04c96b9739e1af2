-- SUMMARY: One run of a search, from the inputs of the form to what the map shows.
import PlaceSearch.Result.Summary
import PlaceSearch.Session.Form

/-!
# Runs

A run resolves the area, gets a token, builds and executes the statement and
interprets the result, with a status line in front of each phase and a final
one at the end. Nothing is tried twice. A run changes nothing of the form but
the last query, and that only if it completes.
-/

namespace PlaceSearch

/-- What a map shows after a run. -/
inductive Display (R : Type) where
  | summary (summary : Summary R)
  | density (layer : Layer R)
  /-- Cells were asked for and there are none. -/
  | noCells
deriving DecidableEq

/-- A completed run. -/
structure Completed (R : Type) where
  shape : Shape
  statement : String
  display : Display R
  message : String
  bounds : Option (Box R)
deriving DecidableEq

inductive Outcome (R : Type) where
  /-- The form lacks something; no query was sent. -/
  | incomplete (missing : Missing)
  | completed (result : Completed R)
deriving DecidableEq

namespace Run

variable {R : Type} [Coordinate R]

/-- The last word of a run that found something. -/
def success : String := "Query successful."

/-- What is said about rows that are not at hand. -/
def truncationWarning (t : Table) : String :=
  if t.isPartial then
    s!" Warning: Displaying {t.rows.length} of {(t.totalRows.getD 0).toNat} total rows."
  else ""

/-- What the map shows of a result, and the final message. -/
def interpret (ringOf : String → Option (List (Point R))) (shape : Shape) (center : Point R)
    (t : Table) : Except Fault (Display R × String) :=
  let ofLayer : Option (Layer R) → Display R × String
    | some layer => (.density layer, success)
    | none => (.noCells, Layer.noCells)
  match shape with
  | .cells =>
    match Layer.ofArrays ringOf t with
    | .ok layer => .ok (ofLayer layer)
    | .error fault => .error (.result fault)
  | .function => .ok (ofLayer (Layer.ofRows? t))
  | _ => .ok (.summary (Summary.ofTable t center), success ++ truncationWarning t)

/-- A status line. -/
def say (text : String) : Traced R Unit := .emit (.status .info text)

/-- Resolve the area of a form. Lookups are announced if there will be any. -/
def resolve (services : Services R) (territory : Territory) (f : Form R) :
    Traced R (Except Fault (Resolved R)) :=
  match f.mode with
  | .circle => pure (.ok (.circle f.center f.meters))
  | .function => pure (.ok (.function f.center))
  | .polygon => pure (.ok (.polygon f.polygon))
  | .region => do
    if f.regionColumn.isSome && !((Text.trim f.regionInput).isEmpty && f.regionTags.isEmpty) then
      say "Geocoding regions..."
    let resolved ←
      Resolved.region services f.regionColumn f.regionInput f.regionTags territory.label
    return .ok resolved
  | .route => do
    if f.ends.both.isSome then say "Calculating route..."
    Resolved.route services f.ends f.routeBuffer

/-- The request of a form with its area resolved. -/
def request (f : Form R) (scope : Scope R) : Request R where
  scope := scope
  selection := f.selection
  cells := f.cells
  functionMode := f.mode.isFunction
  resolution := f.resolution
  meters := f.meters

/-- Build, execute and interpret, with a token at hand. -/
def query (services : Services R) (ringOf : String → Option (List (Point R)))
    (territory : Territory) (f : Form R) (scope : Scope R) (token : String) :
    Traced R (Except Fault (Completed R)) := do
  let functionMode := f.mode.isFunction
  say (if functionMode then "Building function query..." else "Building query...")
  let statement := (request f scope).statement territory
  say (if functionMode then "Executing function..." else "Executing query...")
  let answer ← Traced.call (.execute statement.render token)
    (services.execute statement.render token)
  return answer.bind fun table =>
    (interpret ringOf statement.shape scope.center table).map fun (display, message) =>
      ⟨statement.shape, statement.render, display, message, scope.bounds⟩

/-- All phases between the first and the final status line. -/
def phases (services : Services R) (ringOf : String → Option (List (Point R)))
    (territory : Territory) (f : Form R) : Traced R (Except Fault (Outcome R)) := do
  match ← resolve services territory f with
  | .error fault => return .error fault
  | .ok (.incomplete missing) => return .ok (.incomplete missing)
  | .ok (.ready scope) =>
    say "Checking authorization..."
    match ← Traced.call .token services.token with
    | .error fault => return .error fault
    | .ok token =>
      let result ← query services ringOf territory f scope token
      return result.map .completed

/-- The final status line. -/
def finalLine : Except Fault (Outcome R) → Level × String
  | .ok (.incomplete missing) => (.error, missing.message)
  | .ok (.completed result) =>
    (match result.display with
      | .noCells => .info
      | _ => .success, result.message)
  | .error fault => (.error, s!"Error: {fault.message}")

omit [Coordinate R] in
/-- The form after a run. -/
def formAfter (f : Form R) : Except Fault (Outcome R) → Form R
  | .ok (.completed result) => f.keepQuery result.statement
  | _ => f

/-- One run: the form after it, and what came of it. -/
def perform (services : Services R) (ringOf : String → Option (List (Point R)))
    (territory : Territory) (f : Form R) : Traced R (Form R × Except Fault (Outcome R)) := do
  say "Validating inputs..."
  let outcome ← phases services ringOf territory f
  let (level, text) := finalLine outcome
  Traced.emit (.status level text)
  return (formAfter f outcome, outcome)

end Run

end PlaceSearch
