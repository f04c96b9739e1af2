-- SUMMARY: Lookups of a region search: which names are looked up, that all of them are kept, and that a failure is no more than no match.
import PlaceSearch.Proofs.Search.Area
import PlaceSearch.Proofs.Search.Resolved
import PlaceSearch.Proofs.Sql.ReadBack

/-!
# Lookups of names

A region search looks up each of its names once and goes on whatever the answers are.
The answers decide only whether the search is ready and which area it shows; condition
and names are made before the first lookup. A lookup that fails is taken up as one that
finds nothing, so putting the one in the place of the other changes neither the result
nor the events.
-/

namespace PlaceSearch

variable {R : Type}

/-- Some lookups that fail in the first are answered with no match in the second; all others are
    answered alike. -/
def Services.Forgives (services services' : Services R) : Prop :=
  ∀ address, services'.geocode address = services.geocode address ∨
    (∃ fault, services.geocode address = .error fault) ∧ services'.geocode address = .ok none

variable [Coordinate R]

/-! ## The text of a region condition -/

/-- Membership in a column that holds one name, or of one of the names that a column holds. -/
def regionFilter (column : RegionColumn) (names : List String) : String :=
  let list := ", ".intercalate (names.map Sql.Quote.single.encode)
  match column.type with
  | .string => s!"places.{column.field.name} IN ({list})"
  | .array =>
    s!"EXISTS (SELECT 1 FROM UNNEST(places.{column.field.name}) AS name WHERE name IN ({list}))"

theorem render_toSql_region (column : RegionColumn) (names : List String) :
    (Condition.region (R := R) column names).toSql.render = regionFilter column names := by
  have henclosed : ∀ front back : String,
      (Sql.Fragment.code front ++ Sql.Fragment.literals .single names ++
        Sql.Fragment.code back).render =
        front ++ ", ".intercalate (names.map Sql.Quote.single.encode) ++ back := by
    intro front back
    rw [Sql.Fragment.render_append, Sql.Fragment.render_append, Sql.Quote.render_literals]
    simp [Sql.Fragment.code, Sql.Piece.render]
  unfold Condition.toSql regionFilter
  cases hcolumn : column.type with
  | string =>
    simp only [hcolumn]
    exact henclosed _ _
  | array =>
    simp only [hcolumn]
    exact henclosed _ _

namespace Resolved

/-! ## Names -/

/-- The names as they are given: the tags, then the typed text, each of them trimmed and in title
    case, without the blank ones. -/
def givenNames (typed : String) (tags : List String) : List String :=
  ((tags ++ [typed]).map fun text => Text.titleCase (Text.trim text)).filter fun name =>
    !name.isEmpty

theorem regionNames_eq_ofList_givenNames (typed : String) (tags : List String) :
    regionNames typed tags = Distinct.ofList (givenNames typed tags) :=
  regionNames_eq_ofList typed tags

/-! ## Outcomes -/

variable {services services' : Services R} {column : RegionColumn} {territory : String}
  {names : List String}

theorem exists_unionAll_eq_some_iff {bs : List (Box R)} :
    (∃ bounds, unionAll bs = some bounds) ↔ ∃ b, b ∈ bs := by
  cases bs with
  | nil => simp [unionAll]
  | cons b rest => exact iff_of_true ⟨_, rfl⟩ ⟨b, List.mem_cons_self⟩

/-- One box found is enough. -/
theorem exists_ofNames_eq_ready_iff :
    (∃ scope, ofNames services column territory names = .ready scope) ↔
      ∃ name ∈ names, ∃ b, services.geocode (regionAddress territory name) = .ok (some b) := by
  calc (∃ scope, ofNames services column territory names = .ready scope)
    _ ↔ ∃ bounds, unionAll (foundBoxes services territory names) = some bounds := by
      simp [ofNames_eq_ready_iff]
    _ ↔ ∃ b, b ∈ foundBoxes services territory names := exists_unionAll_eq_some_iff
    _ ↔ _ := by
      simp only [mem_foundBoxes]
      grind

omit [Coordinate R] in
theorem lookUp_of_forgives (h : services.Forgives services') (address : String) :
    lookUp services' address = lookUp services address := by
  unfold lookUp
  obtain hsame | ⟨⟨fault, hfault⟩, hnone⟩ := h address
  · rw [hsame]
  · rw [hfault, hnone]
    rfl

/-- Result and events are the same. -/
theorem region_of_forgives (h : services.Forgives services') (column : Option RegionColumn)
    (typed : String) (tags : List String) (territory : String) :
    region services' column typed tags territory = region services column typed tags territory := by
  unfold region
  simp only [lookUp_of_forgives h]

/-! ## The search as a whole -/

/-- How a region search deals with its names and with what the lookups answer. -/
structure KeepsNames (services : Services R) (column : Option RegionColumn) (typed : String)
    (tags : List String) (territory : String) : Prop where
  /-- Nothing is asked of anyone, and the column or a name is missing, exactly if no column is
      chosen or all texts are blank. -/
  incomplete_iff : region services column typed tags territory = pure (.incomplete .region) ↔
    column = none ∨ ∀ text ∈ tags ++ [typed], Text.trim text = ""
  /-- No name is lost and none is added. -/
  mem_names : ∀ name, name ∈ regionNames typed tags ↔ name ∈ givenNames typed tags
  /-- Each name stands where it was given first, and so only once. -/
  names_inOrder : (regionNames typed tags).Pairwise fun name later =>
    (givenNames typed tags).idxOf name < (givenNames typed tags).idxOf later
  /-- Every name is looked up, in order, whatever the answers are, and nothing else happens. -/
  events : column.isSome = true → (region services column typed tags territory).events =
    (regionNames typed tags).map fun name => .geocode s!"{name}, {territory}"
  events_nodup : (region services column typed tags territory).events.Nodup
  ready_iff : (∃ scope, (region services column typed tags territory).value = .ready scope) ↔
    column.isSome = true ∧ ∃ name ∈ regionNames typed tags, ∃ b,
      services.geocode s!"{name}, {territory}" = .ok (some b)
  /-- The condition and the match list all names, found or not. -/
  lists : ∀ scope, (region services column typed tags territory).value = .ready scope →
    ∃ c condition, column = some c ∧ scope.region = some ⟨c, regionNames typed tags⟩ ∧
      scope.condition = some condition ∧
      condition.toSql.render = regionFilter c (regionNames typed tags)
  /-- Other answers that make the search ready make no other condition and no other match. -/
  lists_same : ∀ (services' : Services R) scope scope',
    (region services column typed tags territory).value = .ready scope →
    (region services' column typed tags territory).value = .ready scope' →
    scope'.condition = scope.condition ∧ scope'.region = scope.region
  /-- A failure is no more than no match. -/
  forgives : ∀ services', services.Forgives services' →
    region services' column typed tags territory = region services column typed tags territory

theorem region_eq_incomplete_iff (services : Services R) (column : Option RegionColumn)
    (typed : String) (tags : List String) (territory : String) :
    region services column typed tags territory = pure (.incomplete .region) ↔
      column = none ∨ ∀ text ∈ tags ++ [typed], Text.trim text = "" := by
  have hblank : (∀ text ∈ tags ++ [typed], Text.trim text = "") ↔ regionNames typed tags = [] := by
    simp only [regionNames_eq_nil_iff, List.mem_append, List.mem_singleton, String.isEmpty_iff]
  rw [hblank]
  cases column with
  | none => simp [region]
  | some column =>
    constructor
    · intro h
      have hevents := congrArg Traced.events h
      rw [region_events] at hevents
      exact Or.inr (List.map_eq_nil_iff.mp hevents)
    · intro h
      have hnil := h.resolve_left (Option.some_ne_none column)
      simp only [region, hnil]

theorem keepsNames (services : Services R) (column : Option RegionColumn) (typed : String)
    (tags : List String) (territory : String) :
    KeepsNames services column typed tags territory where
  incomplete_iff := region_eq_incomplete_iff services column typed tags territory
  mem_names name := by rw [regionNames_eq_ofList_givenNames, Distinct.mem_ofList]
  names_inOrder := by
    rw [regionNames_eq_ofList_givenNames]
    exact Distinct.pairwise_idxOf_ofList _
  events hcolumn := by
    obtain ⟨column, rfl⟩ := Option.isSome_iff_exists.mp hcolumn
    exact region_events services column typed tags territory
  events_nodup := by
    cases column with
    | none => simp [region]
    | some column =>
      rw [region_events]
      refine (nodup_regionNames typed tags).map fun name name' h => ?_
      exact regionAddress_injective territory (Event.geocode.inj h)
  ready_iff := by
    cases column with
    | none => simp [region]
    | some column =>
      simp only [region_value_some, exists_ofNames_eq_ready_iff]
      exact ⟨fun h => ⟨rfl, h⟩, And.right⟩
  lists scope h := by
    obtain ⟨c, bounds, hcolumn, -, rfl⟩ := eq_of_region_value_eq_ready h
    exact ⟨c, _, hcolumn, rfl, rfl, render_toSql_region c _⟩
  lists_same services' scope scope' h h' := by
    obtain ⟨c, bounds, rfl, -, rfl⟩ := eq_of_region_value_eq_ready h
    obtain ⟨c', bounds', hsame, -, rfl⟩ := eq_of_region_value_eq_ready h'
    obtain rfl := Option.some.inj hsame
    exact ⟨rfl, rfl⟩
  forgives services' h := region_of_forgives h column typed tags territory

/-- Blanks around a name and the case of its letters make no other name, and a blank tag none. -/
example : regionNames "  new york " ["BOSTON", " ", "New York", "boston"] =
    ["Boston", "New York"] := by decide

end Resolved

end PlaceSearch
