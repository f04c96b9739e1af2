-- SUMMARY: The search form: its inputs, the edits a user can make, and what each edit does.
import PlaceSearch.Search.Resolved
import PlaceSearch.Session.Mode
import PlaceSearch.Setup

/-!
# The search form

The form holds the inputs of a search and the text of the last query that still
belongs to them. Every input changes by an edit only. An edit forgets the last
query, whether it is accepted or not; a rejected edit changes no input, except
that a pasted text stays visible and is marked as invalid.
-/

namespace PlaceSearch

structure Form (R : Type) where
  defaults : FormDefaults
  mode : Mode
  center : Option (Point R)
  meters : Nat
  polygon : Option (Polygon R)
  /-- The polygon as shown to the user, or what they pasted instead. -/
  polygonText : String
  /-- What they pasted was no polygon. -/
  polygonTextInvalid : Bool
  regionColumn : Option RegionColumn
  /-- The region name being typed. -/
  regionInput : String
  regionTags : List String
  ends : Endpoints R
  routeBuffer : Nat
  selection : Selection
  /-- Whether cells are asked for instead of counts. -/
  cells : Bool
  resolution : Nat
  lastQuery : Option String

/-- One edit by the user. -/
inductive Edit (R : Type) where
  /-- Switch the mode; everything goes back to the defaults of the mode. -/
  | setMode (mode : Mode)
  /-- Back to the defaults of the mode. -/
  | reset
  | setCenter (center : Point R)
  | setRadius (meters : Nat)
  | drawPolygon (vertices : List (Point R))
  | pasteText (text : String)
  | moveVertex (index : Nat) (position : Point R)
  | insertVertex (index : Nat) (position : Point R)
  | setRegionColumn (column : Option RegionColumn)
  | setRegionInput (text : String)
  /-- Make a name a tag; a blank name stands for the one being typed, which is used up. -/
  | addRegionTag (name : String)
  | removeRegionTag (tag : String)
  | setOrigin (origin : Option (Point R))
  | setDestination (destination : Option (Point R))
  | setRouteBuffer (meters : Nat)
  | addPlaceType (type : String)
  | removePlaceType (type : String)
  | setPrimaryTypeOnly (only : Bool)
  | setAttribute (name : String) (enabled : Bool)
  | setRating (range : RatingRange)
  | setStatus (status : Option BusinessStatus)
  | addBrandName (name : String)
  | removeBrandName (name : String)
  | setBrandCategory (category : Option String)
  | setHours (window : Option OpeningWindow)
  | setCells (enabled : Bool)
  | setResolution (resolution : Nat)

namespace Form

variable {R : Type} [Coordinate R]

omit [Coordinate R] in
/-- All inputs back to the defaults of a mode. The region column stays. -/
def resetTo (f : Form R) (mode : Mode) : Form R :=
  { f with
    mode := mode
    center := none
    meters := if mode.isFunction then f.defaults.functionMeters else f.defaults.circleMeters
    polygon := none
    polygonText := ""
    polygonTextInvalid := false
    regionInput := ""
    regionTags := []
    ends := .unset
    routeBuffer := f.defaults.routeBuffer
    selection := .fresh
    cells := mode.isFunction
    resolution := clampNat FormDefaults.minResolution mode.maxResolution f.defaults.resolution }

/-- A new form. -/
def new (defaults : FormDefaults) : Form R :=
  resetTo {
    defaults := defaults
    mode := .circle
    center := none
    meters := defaults.circleMeters
    polygon := none
    polygonText := ""
    polygonTextInvalid := false
    regionColumn := none
    regionInput := ""
    regionTags := []
    ends := .unset
    routeBuffer := defaults.routeBuffer
    selection := .fresh
    cells := false
    resolution := defaults.resolution
    lastQuery := none } .circle

/-- Drop the last query. -/
def forgetQuery (f : Form R) : Form R := { f with lastQuery := none }

/-- Keep the text of a query that has just been answered. -/
def keepQuery (f : Form R) (statement : String) : Form R := { f with lastQuery := some statement }

-- ---------------------------------------------------------------------------
-- Edits
-- ---------------------------------------------------------------------------

/-- A point that is on the globe. -/
def finitePoint (p : Point R) : Except Fault (Point R) :=
  if p.isFinite then .ok p else .error (.geometry (.badCoordinate p.render))

/-- A point that is on the globe, or none. -/
def finitePoint? : Option (Point R) → Except Fault (Option (Point R))
  | none => .ok none
  | some p => (finitePoint p).map some

/-- Change the polygon, if there is one, and show it. -/
def editPolygon (f : Form R) (change : Polygon R → Except GeometryFault (Polygon R)) :
    Except Fault (Form R) :=
  match f.polygon with
  | none => .error (.geometry .noPolygon)
  | some p =>
    match change p with
    | .ok p => .ok { f with polygon := some p, polygonText := p.toText }
    | .error fault => .error (.geometry fault)

/-- Change the selection. -/
def select (f : Form R) (change : Selection → Selection) : Form R :=
  { f with selection := change f.selection }

/-- Make a name a tag, or the typed name if the name is blank. -/
def addTag (f : Form R) (name : String) : Form R :=
  let fromInput := (Text.trim name).isEmpty
  let tag := Resolved.regionName (if fromInput then f.regionInput else name)
  { f with
    regionInput := if fromInput then "" else f.regionInput
    regionTags := if tag.isEmpty then f.regionTags else Distinct.add f.regionTags tag }

/-- The form after an accepted edit, or why the edit is rejected. -/
def edit (f : Form R) : Edit R → Except Fault (Form R)
  | .setMode mode => .ok (f.resetTo mode)
  | .reset => .ok (f.resetTo f.mode)
  | .setCenter center => (finitePoint center).map fun c => { f with center := some c }
  | .setRadius meters => .ok { f with meters := meters }
  | .drawPolygon vertices =>
    match Polygon.ofVertices vertices with
    | .ok p =>
      .ok { f with polygon := some p, polygonText := p.toText, polygonTextInvalid := false }
    | .error fault => .error (.geometry fault)
  | .pasteText text =>
    match Polygon.ofText text with
    | .ok p => .ok { f with polygon := some p, polygonText := text, polygonTextInvalid := false }
    | .error fault => .error (.geometry fault)
  | .moveVertex index position => f.editPolygon fun p => p.moveVertex index position
  | .insertVertex index position => f.editPolygon fun p => p.insertVertex index position
  | .setRegionColumn column => .ok { f with regionColumn := column }
  | .setRegionInput text => .ok { f with regionInput := text }
  | .addRegionTag name => .ok (f.addTag name)
  | .removeRegionTag tag => .ok { f with regionTags := f.regionTags.filter (· != tag) }
  | .setOrigin origin =>
    (finitePoint? origin).map fun o => { f with ends := { f.ends with origin := o } }
  | .setDestination destination =>
    (finitePoint? destination).map fun d => { f with ends := { f.ends with destination := d } }
  | .setRouteBuffer meters => .ok { f with routeBuffer := meters }
  | .addPlaceType type => .ok (f.select fun s => s.addPlaceType type)
  | .removePlaceType type =>
    .ok (f.select fun s => { s with placeTypes := s.placeTypes.filter (· != type) })
  | .setPrimaryTypeOnly only => .ok (f.select fun s => { s with primaryTypeOnly := only })
  | .setAttribute name true =>
    match f.selection.addAttribute name with
    | .ok s => .ok (f.select fun _ => s)
    | .error fault => .error (.filter fault)
  | .setAttribute name false =>
    .ok (f.select fun s => { s with attributes := s.attributes.filter (·.name != name) })
  | .setRating range => .ok (f.select fun s => { s with rating := range.finite })
  | .setStatus status => .ok (f.select fun s => { s with status := status })
  | .addBrandName name => .ok (f.select fun s => s.addBrandName name)
  | .removeBrandName name =>
    .ok (f.select fun s => { s with brandNames := s.brandNames.filter (· != name) })
  | .setBrandCategory category =>
    .ok (f.select fun s => { s with brandCategory := category.filter fun c => !c.isEmpty })
  | .setHours window => .ok (f.select fun s => { s with hours := window })
  | .setCells enabled => .ok { f with cells := enabled || f.mode.isFunction }
  | .setResolution resolution =>
    .ok { f with
      resolution := clampNat FormDefaults.minResolution f.mode.maxResolution resolution }

/-- What a rejected edit leaves behind: a pasted text stays visible, marked as invalid. -/
def afterRejection (f : Form R) : Edit R → Form R
  | .pasteText text => { f with polygonText := text, polygonTextInvalid := true }
  | _ => f

/-- Make an edit. The last query is forgotten first. -/
def apply (f : Form R) (e : Edit R) : Form R × Except Fault Unit :=
  match f.forgetQuery.edit e with
  | .ok g => (g, .ok ())
  | .error fault => (f.forgetQuery.afterRejection e, .error fault)

end Form

/-- A form and those who observe its edits. -/
structure Watched (R : Type) where
  form : Form R
  /-- What each observer has been told, in the order of subscription: the accepted
      edits since then, each with the form after it. -/
  observers : List (List (Edit R × Form R))

namespace Watched

variable {R : Type}

/-- One more observer, who hears of what is accepted from now on. -/
def subscribe (w : Watched R) : Watched R := { w with observers := w.observers ++ [[]] }

/-- What the first observer has been told. -/
def notified (w : Watched R) : List (Edit R × Form R) := w.observers.head?.getD []

/-- Make an edit; every observer hears of it if it is accepted. -/
def apply [Coordinate R] (w : Watched R) (e : Edit R) : Watched R × Except Fault Unit :=
  match w.form.apply e with
  | (form, .ok ()) => (⟨form, w.observers.map fun told => told ++ [(e, form)]⟩, .ok ())
  | (form, .error fault) => (⟨form, w.observers⟩, .error fault)

end Watched

end PlaceSearch
