-- SUMMARY: Texts that a user chose do not reach the structure of a statement.
import PlaceSearch.Proofs.Query.ColumnName
import PlaceSearch.Proofs.Search.Resolved

/-!
# Outlines of requests

The outline of a request has stand-ins for the texts that a user or a service
chose: place types, brands, region names and the geometry of a route. Two
requests that differ in such texts only have one outline. The masked statement of
a request is that of its outline, once the names of type columns are put aside,
so two such requests have statements of one structure.
-/

namespace PlaceSearch

open Sql (Mark Fragment)
open Sql.Fragment (marks code literal literals)

/-- As many empty texts as there are texts. -/
def blanks (texts : List String) : List String := texts.map fun _ => ""

/-- A fixed text in the place of another, empty exactly if that one is. -/
def standIn (text : String) : String := if text.isEmpty then "" else "x"

@[simp] theorem length_blanks (texts : List String) : (blanks texts).length = texts.length := by
  simp [blanks]

@[simp] theorem isEmpty_blanks (texts : List String) : (blanks texts).isEmpty = texts.isEmpty := by
  cases texts <;> rfl

@[simp] theorem isEmpty_standIn (text : String) : (standIn text).isEmpty = text.isEmpty := by
  unfold standIn
  split
  · next h => rw [h]; rfl
  · next h => rw [Bool.not_eq_true] at h; rw [h]; decide

variable {R : Type}

/-! ## Outlines -/

/-- The condition without the texts that a user chose. -/
def Condition.outline : Condition R → Condition R
  | .region column names => .region column (blanks names)
  | .primaryType types => .primaryType (blanks types)
  | .anyType types => .anyType (blanks types)
  | .brandName names => .brandName (blanks names)
  | .brandCategory category => .brandCategory (standIn category)
  | c => c

/-- The preamble without the geometry of a route. -/
def Preamble.outline : Preamble → Preamble
  | .route _ => .route ""
  | p => p

def Selection.outline (s : Selection) : Selection :=
  { s with
    placeTypes := blanks s.placeTypes
    brandNames := blanks s.brandNames
    brandCategory := s.brandCategory.map standIn }

def FunctionSelection.outline (s : FunctionSelection) : FunctionSelection :=
  { s with placeTypes := blanks s.placeTypes }

def RegionMatch.outline (r : RegionMatch) : RegionMatch := { r with names := blanks r.names }

def Scope.outline (s : Scope R) : Scope R :=
  { s with
    condition := s.condition.map Condition.outline
    preamble := s.preamble.map Preamble.outline
    region := s.region.map RegionMatch.outline }

/-- The request without the texts that a user or a service chose. -/
def Request.outline (r : Request R) : Request R :=
  { r with scope := r.scope.outline, selection := r.selection.outline }

def Counted.outline : Counted → Counted
  | .perType types => .perType (blanks types)
  | c => c

def Statement.outline : Statement R → Statement R
  | .count preamble counted source conditions =>
    .count (preamble.map Preamble.outline) counted.outline source
      (conditions.map Condition.outline)
  | .cells preamble resolution source conditions =>
    .cells (preamble.map Preamble.outline) resolution source (conditions.map Condition.outline)
  | .function dataset center meters resolution filters =>
    .function dataset center meters resolution filters.outline

/-! ## The statement of an outline -/

theorem Selection.conditions_outline (s : Selection) :
    (s.outline.conditions : List (Condition R)) = s.conditions.map Condition.outline := by
  have htypes : (Condition.ofPlaceTypes? (blanks s.placeTypes) s.primaryTypeOnly :
      Option (Condition R)) =
        (Condition.ofPlaceTypes? s.placeTypes s.primaryTypeOnly).map Condition.outline := by
    unfold Condition.ofPlaceTypes?
    rw [isEmpty_blanks]
    split
    · rfl
    · split <;> rfl
  have hnames : (Condition.ofBrandNames? (blanks s.brandNames) : Option (Condition R)) =
      (Condition.ofBrandNames? s.brandNames).map Condition.outline := by
    unfold Condition.ofBrandNames?
    rw [isEmpty_blanks]
    split <;> rfl
  have hcategory : ((s.brandCategory.map standIn).bind Condition.ofBrandCategory? :
      Option (Condition R)) =
        (s.brandCategory.bind Condition.ofBrandCategory?).map Condition.outline := by
    cases s.brandCategory with
    | none => rfl
    | some category =>
      simp only [Option.map_some, Option.bind_some, Condition.ofBrandCategory?, isEmpty_standIn]
      split <;> rfl
  simp only [conditions, outline, effectiveHours, htypes, hnames, hcategory, List.map_append,
    Option.toList_map, List.map_map]
  rfl

namespace Request

theorem features_outline (r : Request R) : r.outline.features = r.features := by
  unfold features
  simp only [outline, Scope.outline, Selection.outline, Selection.usesBrands, isEmpty_blanks,
    length_blanks, Option.isSome_map]
  cases r.scope.region with
  | none => rfl
  | some region => simp [RegionMatch.outline, RegionMatch.isMultiple]

theorem statement_outline (r : Request R) (territory : Territory) :
    r.outline.statement territory = (r.statement territory).outline := by
  have hconditions : r.outline.conditions = r.conditions.map Condition.outline := by
    unfold conditions
    rw [List.map_append, ← Selection.conditions_outline, ← Option.toList_map]
    rfl
  have hsource : r.outline.source territory = r.source territory := by
    unfold source
    simp only [outline, Selection.outline, Selection.usesBrands, Selection.effectiveHours,
      isEmpty_blanks, Option.isSome_map]
    rfl
  have hfield : r.outline.regionField = r.regionField := by
    unfold regionField
    simp only [outline, Scope.outline]
    cases r.scope.region <;> rfl
  unfold statement
  rw [features_outline]
  cases r.features.shape <;>
    simp only [hconditions, hsource, hfield, Statement.outline, Counted.outline] <;> rfl

end Request

theorem Statement.shape_outline (s : Statement R) : s.outline.shape = s.shape := by
  cases s with
  | count preamble counted source conditions => cases counted <;> rfl
  | cells => rfl
  | function => rfl

/-! ## The marks of an outline -/

/-- The marks of a list of literals depend on its length only. -/
theorem marks_literals_blanks (q : Sql.Quote) (texts : List String) :
    marks (literals q (blanks texts)) = marks (literals q texts) := by
  unfold Sql.Fragment.literals blanks
  rw [Sql.Fragment.marks_join, Sql.Fragment.marks_join]
  simp [Function.comp_def]

variable [Coordinate R]

theorem Condition.marks_toSql_outline (c : Condition R) :
    marks c.outline.toSql = marks c.toSql := by
  cases c with
  | region column names =>
    obtain ⟨field, type⟩ := column
    cases type <;> simp [outline, toSql, marks_literals_blanks]
  | primaryType types => simp [outline, toSql, marks_literals_blanks]
  | anyType types =>
    simp only [outline, toSql, length_blanks]
    have hjoin : marks (Fragment.join " OR " ((blanks types).map typeIn)) =
        marks (Fragment.join " OR " (types.map typeIn)) := by
      simp [blanks, typeIn, Function.comp_def]
    split <;> simp [hjoin]
  | brandName names => simp [outline, toSql, marks_literals_blanks]
  | brandCategory category => simp [outline, toSql]
  | _ => rfl

theorem Preamble.marks_toSql_outline (p : Preamble) : marks p.outline.toSql = marks p.toSql := by
  cases p <;> simp [outline, toSql, declare]

omit [Coordinate R] in
/-- The place types of a function call are in double quotes; the other entries stay. -/
theorem FunctionSelection.marks_entries_outline (s : FunctionSelection) :
    s.outline.entries.map marks = s.entries.map marks := by
  simp only [entries, outline, isEmpty_blanks, List.map_append]
  congr 4
  split
  · rfl
  · simp [entry, bracketed, marks_literals_blanks]

namespace Statement

theorem marks_whereClause_outline (conditions : List (Condition R)) :
    marks (whereClause (conditions.map Condition.outline)) = marks (whereClause conditions) := by
  unfold whereClause Fragment.whereAll
  cases conditions with
  | nil => rfl
  | cons c rest => simp [Condition.marks_toSql_outline, Function.comp_def]

omit [Coordinate R] in
/-- What is written for a preamble has the marks of what is written for its outline. -/
theorem marks_getD_outline (preamble : Option Preamble) (write : Preamble → Fragment)
    (h : ∀ p, marks (write p.outline) = marks (write p)) :
    marks (((preamble.map Preamble.outline).map write).getD []) =
      marks ((preamble.map write).getD []) := by
  cases preamble with
  | none => rfl
  | some p => exact h p

theorem map_marks_cellLines_outline (resolution : Nat) (source : Source)
    (conditions : List (Condition R)) :
    (cellLines resolution source (conditions.map Condition.outline)).map marks =
      (cellLines resolution source conditions).map marks := by
  unfold cellLines
  simp only [List.map_append, List.isEmpty_map]
  congr 2
  split
  · rfl
  · simp [marks_whereClause_outline]

/-- Unless there is one column for each type, the outline has the marks of the statement. -/
theorem marks_toSql_outline {s : Statement R} (h : s.shape ≠ .perType) :
    marks s.outline.toSql = marks s.toSql := by
  cases s with
  | count preamble counted source conditions =>
    have hcounted : counted.outline = counted := by
      cases counted with
      | perType types => exact absurd rfl h
      | _ => rfl
    have hpreamble := marks_getD_outline preamble Preamble.toSql Preamble.marks_toSql_outline
    rw [outline, hcounted, marks_count, marks_count]
    simp only [beforeColumns, behindColumns, List.map_cons, marks_whereClause_outline, hpreamble]
  | cells preamble resolution source conditions =>
    have hpreamble := marks_getD_outline preamble (fun p => p.toSql ++ code "\n")
      fun p => by simp [Preamble.marks_toSql_outline]
    simp only [outline, toSql, Sql.Fragment.marks_append, Sql.Fragment.marks_join,
      map_marks_cellLines_outline, hpreamble]
  | function dataset center meters resolution filters =>
    simp only [outline, toSql, functionEntries, Sql.Fragment.marks_append,
      Sql.Fragment.marks_join, List.map_append, FunctionSelection.marks_entries_outline]

/-- With the names of type columns put aside, the outline has the marks of the statement. -/
theorem setAside_outline (s : Statement R) :
    (setAside (marks s.outline.toSql)).1 = (setAside (marks s.toSql)).1 := by
  by_cases h : s.shape = .perType
  · cases s with
    | count preamble counted source conditions =>
      cases counted with
      | perType types =>
        have hpreamble := marks_getD_outline preamble Preamble.toSql Preamble.marks_toSql_outline
        rw [outline, Counted.outline, setAside_marks_perType, setAside_marks_perType]
        simp only [beforeColumns, behindColumns, List.map_cons, marks_whereClause_outline,
          hpreamble, blanks, List.map_map]
        rfl
      | _ => cases h
    | cells => cases h
    | function => cases h
  · rw [marks_toSql_outline h]

end Statement

/-! ## Requests that differ in texts only -/

/-- The column name of a place type consists of characters of a plain name. -/
theorem Counted.isNamePart_of_mem_typeColumnName {type : String} {m : Mark}
    (h : m ∈ typeColumnName type) : ∃ c, m = .char c ∧ Sql.isNamePart c = true := by
  obtain ⟨c, hc, rfl⟩ := List.mem_map.mp h
  refine ⟨c, rfl, ?_⟩
  have hcount : ∀ c ∈ "_count".toList, Sql.isNamePart c = true := List.all_eq_true.mp (by decide)
  rw [String.toList_append, List.mem_append] at hc
  exact hc.elim isNamePart_of_mem_columnStem (hcount c)

/-- A request with one column for each type names them after the types, in order. -/
theorem Request.setAside_statement {r : Request R} {territory : Territory}
    (h : (r.statement territory).shape = .perType) :
    (setAside (marks (r.statement territory).toSql)).2 =
      r.selection.placeTypes.map Counted.typeColumnName := by
  rw [shape_statement] at h
  unfold statement
  rw [h]
  exact congrArg Prod.snd (Statement.setAside_marks_perType ..)

/-- Requests that differ in the texts of place types, brands, region names and route
    geometries only have statements of one structure: the scanner ends outside
    literals in both and finds the same marks, but for the names of type columns,
    which are one plain name for each type. -/
theorem mask_statement_eq_of_outline_eq {edition : Edition} {label : String}
    {territory : Territory} (hterritory : Territory.lookup? edition label = some territory)
    {r r' : Request Degrees} (hr : r.scope.IsResolved) (hr' : r'.scope.IsResolved)
    (h : r.outline = r'.outline) :
    (r.statement territory).shape = (r'.statement territory).shape ∧
    ∃ ms ms', Sql.mask (r.statement territory).render = some ms ∧
      Sql.mask (r'.statement territory).render = some ms' ∧
      (setAside ms).1 = (setAside ms').1 ∧
      ((r.statement territory).shape ≠ .perType → ms = ms') ∧
      ((r.statement territory).shape = .perType →
        (setAside ms).2 = r.selection.placeTypes.map Counted.typeColumnName ∧
        (setAside ms').2 = r'.selection.placeTypes.map Counted.typeColumnName) ∧
      ∀ type ∈ r.selection.placeTypes ++ r'.selection.placeTypes,
        ∀ m ∈ Counted.typeColumnName type, ∃ c, m = .char c ∧ Sql.isNamePart c = true := by
  have houtline : (r.statement territory).outline = (r'.statement territory).outline := by
    rw [← Request.statement_outline, ← Request.statement_outline, h]
  have hshape : (r.statement territory).shape = (r'.statement territory).shape := by
    rw [← Statement.shape_outline, houtline, Statement.shape_outline]
  refine ⟨hshape, _, _,
    Statement.mask_render bare_renderDegrees (Request.isBuilt_statement hterritory hr),
    Statement.mask_render bare_renderDegrees (Request.isBuilt_statement hterritory hr'),
    ?_, fun hne => ?_, fun htypes => ?_, ?_⟩
  · rw [← Statement.setAside_outline, houtline, Statement.setAside_outline]
  · rw [← Statement.marks_toSql_outline hne, houtline,
      Statement.marks_toSql_outline (hshape ▸ hne)]
  · exact ⟨Request.setAside_statement htypes, Request.setAside_statement (hshape ▸ htypes)⟩
  · exact fun type _ m hm => Counted.isNamePart_of_mem_typeColumnName hm

/-- Berlin in the sample edition. -/
def berlin : Territory := ⟨.sample, "Berlin, Germany", "de"⟩

theorem lookup?_berlin : Territory.lookup? .sample "Berlin, Germany" = some berlin := by
  decide +kernel

/-- A search for places of some types along a route with the given geometry. -/
def routeSearch (wkt : String) (types : List String) : Request Degrees :=
  let corner : Point Degrees := ⟨.ofFloat 52.5, .ofFloat 13.4⟩
  let bounds := Box.ofPoint corner
  { scope := ⟨some (.alongRoute 100), bounds.center, some (.route wkt), none, some bounds⟩
    selection := { Selection.fresh with placeTypes := types }
    cells := false
    functionMode := false
    resolution := 8
    meters := 1000 }

/-- Collaborators that know a route with the given geometry between any two points. -/
def Services.routing (wkt : String) : Services Degrees where
  geocode _ := .ok none
  route _ _ := .ok ⟨wkt, [], Box.ofPoint ⟨.ofFloat 52.5, .ofFloat 13.4⟩⟩
  token := .error (.authorization "")
  execute _ _ := .error (.authorization "")

theorem routeSearch_isResolved (wkt : String) (types : List String) :
    (routeSearch wkt types).scope.IsResolved := by
  let corner : Point Degrees := ⟨.ofFloat 52.5, .ofFloat 13.4⟩
  have hroute : (Resolved.route (.routing wkt) ⟨some corner, some corner⟩ 100).value =
      .ok (.ready (routeSearch wkt types).scope) := rfl
  exact .route hroute

/-- Texts that try to end their literals change nothing. -/
theorem mask_routeSearch_hostile :
    let plain := routeSearch "LINESTRING(13 52, 14 52)" ["cafe", "bar"]
    let hostile := routeSearch "\"\"\") --" ["' OR TRUE --", "a\\"]
    plain.outline = hostile.outline ∧
      ∃ ms ms', Sql.mask (plain.statement berlin).render = some ms ∧
        Sql.mask (hostile.statement berlin).render = some ms' ∧
        (setAside ms).1 = (setAside ms').1 := by
  intro plain hostile
  have houtline : plain.outline = hostile.outline := rfl
  obtain ⟨-, ms, ms', hms, hms', heq, -⟩ := mask_statement_eq_of_outline_eq lookup?_berlin
    (routeSearch_isResolved _ _) (routeSearch_isResolved _ _) houtline
  exact ⟨houtline, ms, ms', hms, hms', heq⟩

end PlaceSearch
