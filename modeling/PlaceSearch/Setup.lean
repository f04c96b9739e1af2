-- SUMMARY: The setup of a session: project, keys, territory, limits and defaults of the form.
import PlaceSearch.Catalog.Territory
import PlaceSearch.Fault

/-!
# Setup

A draft collects settings; it becomes a setup if a project is named and the
label belongs to a territory of the edition.
-/

namespace PlaceSearch

/-- The values a form starts with. -/
structure FormDefaults where
  circleMeters : Nat
  functionMeters : Nat
  routeBuffer : Nat
  resolution : Nat
  markerLimit : Nat
deriving DecidableEq, Repr

namespace FormDefaults

/-- The coarsest resolution on offer. -/
def minResolution : Nat := 1

/-- The finest resolution on offer. -/
def maxResolution : Nat := 12

/-- The finest resolution that the density function takes. -/
def maxFunctionResolution : Nat := 8

def standard : FormDefaults where
  circleMeters := 1000
  functionMeters := 5000
  routeBuffer := 100
  resolution := 8
  markerLimit := 20

end FormDefaults

/-- A number brought between two bounds. -/
def clampNat (low high n : Nat) : Nat := if n < low then low else if high < n then high else n

structure Setup where
  projectId : String
  mapsKey : String
  territory : Territory
  maxResults : Nat
  defaults : FormDefaults
deriving DecidableEq, Repr

/-- Settings that have not been checked yet. -/
structure SetupDraft where
  projectId : String
  mapsKey : String
  edition : Edition
  label : Option String
  maxResults : Nat
  defaults : FormDefaults
deriving DecidableEq, Repr

namespace SetupDraft

/-- Nothing set, the full edition. -/
def empty : SetupDraft where
  projectId := ""
  mapsKey := ""
  edition := .full
  label := none
  maxResults := 100000
  defaults := .standard

/-- Nothing set, the sample edition. -/
def sample : SetupDraft := { empty with edition := .sample }

/-- Settings from the environment, where a variable may be missing. -/
def ofEnvironment (get : String → Option String) : Except Fault SetupDraft := do
  let edition ← match get "DATASET" with
    | some name => (Edition.ofString name).mapError Fault.setup
    | none => .ok .full
  return { empty with
    projectId := (get "GCP_PROJECT_ID").getD ""
    mapsKey := (get "MAPS_API_KEY").getD ""
    edition := edition
    label := get "PLACES_LOCATION" }

/-- Set the default resolution, brought into the range on offer. -/
def withResolution (d : SetupDraft) (n : Nat) : SetupDraft :=
  let resolution := clampNat FormDefaults.minResolution FormDefaults.maxResolution n
  { d with defaults := { d.defaults with resolution := resolution } }

/-- Set the default radius of a circle. -/
def withCircleRadius (d : SetupDraft) (meters : Nat) : SetupDraft :=
  { d with defaults := { d.defaults with circleMeters := meters } }

/-- Set the default distance from a route. -/
def withRouteBuffer (d : SetupDraft) (meters : Nat) : SetupDraft :=
  { d with defaults := { d.defaults with routeBuffer := meters } }

/-- What is said about a label that no territory has. -/
def unknownLabel (edition : Edition) (label : String) : String :=
  s!"Unknown location '{label}' for the {edition.render} dataset; expected one of: " ++
    ", ".intercalate edition.labels

/-- Check the settings. -/
def build (d : SetupDraft) : Except Fault Setup :=
  if (Text.trim d.projectId).isEmpty then .error (.setup "GCP project id must be set")
  else
    let label := d.label.getD ""
    match Territory.lookup? d.edition label with
    | some territory => .ok ⟨d.projectId, d.mapsKey, territory, d.maxResults, d.defaults⟩
    | none => .error (.setup (unknownLabel d.edition label))

end SetupDraft

end PlaceSearch
