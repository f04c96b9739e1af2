-- SUMMARY: Which columns of the places a statement names: its own, attributes, and the region column.
import PlaceSearch.Proofs.Catalog.Selector
import PlaceSearch.Proofs.Query.References
import PlaceSearch.Proofs.Search.Area

/-!
# Columns named bare

A statement names columns of the places without quotes, as in `places.rating`. Most of
these names are the program's own. The others are attributes and the region column,
which the user chooses; both are plain names, and a reader finds each of them as one
word behind the dot.
-/

namespace PlaceSearch

open Sql (Token codeTokens listTokens)
open Sql.Token (word quoted symbol)

/-- What stands behind the first dot of a path. -/
def Reference.behindDot (path : String) : String :=
  String.ofList ((path.toList.dropWhile (· != '.')).drop 1)

/-- The column of the places that a token names, if it names one. -/
def Sql.Token.placesColumn? : Token → Option String
  | .word path =>
    if Reference.ofToken? (word path) = some (.table "places") then some (Reference.behindDot path)
    else none
  | _ => none

/-- The columns of the places that some tokens name, in order. -/
def placesColumns (ts : List Token) : List String := ts.filterMap Token.placesColumn?

/-! ## Columns of tokens -/

@[simp] theorem placesColumns_append (ts us : List Token) :
    placesColumns (ts ++ us) = placesColumns ts ++ placesColumns us := List.filterMap_append

@[simp] theorem placesColumns_nil : placesColumns [] = [] := rfl

@[simp] theorem placesColumns_cons (t : Token) (ts : List Token) :
    placesColumns (t :: ts) = t.placesColumn?.toList ++ placesColumns ts := by
  cases h : t.placesColumn? <;> simp [placesColumns, h]

@[simp] theorem placesColumn?_symbol (c : Char) : (symbol c).placesColumn? = none := rfl

@[simp] theorem placesColumn?_literal (q : Sql.Quote) (text : String) :
    (Token.literal q text).placesColumn? = none := rfl

@[simp] theorem placesColumn?_quoted (name : String) : (quoted name).placesColumn? = none := rfl

@[simp] theorem placesColumn?_placesColumn (field : String) :
    (word ("places." ++ field)).placesColumn? = some field := by
  have hchars : ("places." ++ field).toList = "places".toList ++ '.' :: field.toList := by simp
  have hbehind : Reference.behindDot ("places." ++ field) = field := by
    rw [Reference.behindDot, hchars,
      List.dropWhile_append_of_pos (List.all_eq_true.mp (by decide))]
    simp
  rw [Token.placesColumn?, if_pos (ofToken?_placesColumn field), hbehind]

theorem placesColumn?_of_ne {t : Token} (h : Reference.ofToken? t ≠ some (.table "places")) :
    t.placesColumn? = none := by
  cases t with
  | word path => rw [Token.placesColumn?, if_neg h]
  | _ => rfl

/-- Tokens that do not refer to the places name none of their columns. -/
theorem placesColumns_eq_nil {ts : List Token} (h : .table "places" ∉ references ts) :
    placesColumns ts = [] := by
  rw [placesColumns, List.filterMap_eq_nil_iff]
  intro t ht
  exact placesColumn?_of_ne fun href => h (List.mem_filterMap.mpr ⟨t, ht, href⟩)

@[simp] theorem placesColumns_listTokens (q : Sql.Quote) (texts : List String) :
    placesColumns (listTokens q texts) = [] := placesColumns_eq_nil (by simp)

@[simp] theorem placesColumn?_natRepr (n : Nat) : (word n.repr).placesColumn? = none :=
  placesColumn?_of_ne (by simp)

@[simp] theorem placesColumn?_columnName (type : String) :
    (word (Counted.columnName type)).placesColumn? = none := placesColumn?_of_ne (by simp)

theorem placesColumns_number {text : String} (h : IsNumberText text) :
    placesColumns (codeTokens text) = [] := placesColumns_eq_nil (by simp [references_number h])

@[simp] theorem placesColumns_plainNumber (x : Float) :
    placesColumns (codeTokens (plainNumber x)) = [] :=
  placesColumns_number (isNumberText_plainNumber x)

/-- Joined parts name what the parts name. -/
theorem placesColumns_intercalate {separator : List Token} (hsep : placesColumns separator = [])
    (parts : List (List Token)) :
    placesColumns (separator.intercalate parts) = parts.flatMap placesColumns :=
  filterMap_intercalate Token.placesColumn? hsep parts

/-! ## Columns of the parts -/

/-- The columns that a condition names. -/
def Condition.placesColumns {R : Type} : Condition R → List String
  | .near _ _ | .insideArea | .alongRoute _ => ["point"]
  | .region column _ => [column.field.name]
  | .primaryType _ => ["primary_type"]
  | .anyType _ => ["types"]
  | .attribute name => [name.name]
  | .rating _ => ["rating"]
  | .status _ => ["business_status"]
  | .verbatim _ | .brandName _ | .brandCategory _ | .hours _ _ => []

/-- Columns that statements name whatever the user chose. -/
def ownColumns : List String :=
  ["point", "types", "primary_type", "rating", "business_status", "id", "brand_ids"] ++
    Weekday.all.map fun day => "regular_opening_hours." ++ day.name

/-- The column that a count is grouped by, or counts in. -/
def Counted.placesColumns : Counted → List String
  | .total => []
  | .perType _ => ["types"]
  | .perBrand => ["id"]
  | .perRegion field => [field]

theorem placesColumns_typeIn (type : String) : placesColumns (typeInTokens type) = ["types"] := by
  have hcode : placesColumns [word "IN", word "UNNEST", symbol '(', word "places.types",
      symbol ')'] = ["types"] := by decide
  rw [typeInTokens, placesColumns_cons, hcode]
  rfl

theorem placesColumns_hours {column : String}
    (h : Reference.ofToken? (word column) = some (.table "opening_period")) (relation : Char)
    (t : ClockTime) : placesColumns (hoursTokens column relation t) = [] :=
  placesColumns_eq_nil (by simp [references_hours h])

theorem placesColumns_condition {R : Type} [Coordinate R]
    (hrender : ∀ x : R, IsNumberText (Coordinate.render x)) {c : Condition R}
    (h : c.isVerbatim = false) : placesColumns c.tokens ⊆ c.placesColumns := by
  have hplain : ∀ text ∈ ["ST_DWITHIN", "ST_CONTAINS", "ST_GEOGPOINT", "search_area", "route", "IN",
      "EXISTS", "SELECT", "1", "FROM", "UNNEST", "AS", "name", "WHERE", "AND", "OR", "BETWEEN",
      "TRUE", "brands.name", "brands.category"], (word text).placesColumn? = none := by decide
  have hown : (word "places.point").placesColumn? = some "point" ∧
      (word "places.primary_type").placesColumn? = some "primary_type" ∧
      (word "places.rating").placesColumn? = some "rating" ∧
      (word "places.business_status").placesColumn? = some "business_status" := by decide
  simp only [List.forall_mem_cons, List.not_mem_nil, false_imp_iff, implies_true, and_true]
    at hplain
  cases c with
  | verbatim text => cases h
  | near center meters =>
    simp [Condition.tokens, pointTokens, Condition.placesColumns, placesColumns_number (hrender _), hplain,
      hown]
  | region column names =>
    obtain ⟨field, type⟩ := column
    cases type <;> simp [Condition.tokens, Condition.placesColumns, unnestTokens, hplain]
  | anyType types =>
    have halternatives : placesColumns ([word "OR"].intercalate (types.map typeInTokens)) ⊆
        ["types"] := by
      rw [placesColumns_intercalate (by simp [hplain]), List.flatMap_map]
      simp [placesColumns_typeIn, List.subset_def]
    unfold Condition.tokens
    dsimp only
    split
    · simpa [Condition.placesColumns] using halternatives
    · exact halternatives
  | rating bound =>
    cases bound <;> simp [Condition.tokens, RatingBound.tokens, Condition.placesColumns, hplain, hown]
  | hours start finish =>
    have hcolumns : ∀ column ∈ ["opening_period.start_time", "opening_period.end_time"],
        Reference.ofToken? (word column) = some (.table "opening_period") := by decide
    simp only [List.forall_mem_cons, List.not_mem_nil, false_imp_iff, implies_true, and_true]
      at hcolumns
    cases start <;> cases finish <;>
      simp [Condition.tokens, Condition.placesColumns, List.intercalate_cons_cons,
        placesColumns_hours hcolumns.1, placesColumns_hours hcolumns.2, hplain]
  | _ => simp [Condition.tokens, Condition.placesColumns, hplain, hown]

theorem placesColumns_source (s : Source) : placesColumns s.tokens ⊆ ownColumns := by
  have hwords : ∀ text ∈ ["FROM", "places", "UNNEST", "AS", "opening_period", "brand_id", "LEFT",
      "JOIN", "brands", "ON", "brands.id"], (word text).placesColumn? = none := by decide
  have hids : (word "places.brand_ids").placesColumn? = some "brand_ids" := by decide
  have hday (day : Weekday) :
      (word ("places.regular_opening_hours." ++ day.name)).placesColumn? =
        some ("regular_opening_hours." ++ day.name) := by
    have hpath : "places.regular_opening_hours." ++ day.name =
        "places." ++ ("regular_opening_hours." ++ day.name) := by
      rw [← String.append_assoc]
      rfl
    rw [hpath, placesColumn?_placesColumn]
  have hall (day : Weekday) : day ∈ Weekday.all := by cases day <;> decide
  simp only [List.forall_mem_cons, List.not_mem_nil, false_imp_iff, implies_true, and_true]
    at hwords
  obtain ⟨places, hoursOn, brands⟩ := s
  cases hoursOn <;> cases brands <;>
    simp [Source.tokens, brandsTokens, unnestTokens, ownColumns, hwords, hids, hday, hall]

theorem placesColumns_counted (counted : Counted) :
    placesColumns (Statement.selectTokens counted ++ counted.groupingTokens) ⊆
      counted.placesColumns := by
  have hwords : ∀ text ∈ ["SELECT", "WITH", "AGGREGATION_THRESHOLD", "COUNT", "COUNTIF", "AS",
      "total_count", "count", "region_name", "GROUP", "BY", "ORDER", "DESC", "brands.name"],
      (word text).placesColumn? = none := by decide
  have hid : (word "places.id").placesColumn? = some "id" := by decide
  simp only [List.forall_mem_cons, List.not_mem_nil, false_imp_iff, implies_true, and_true]
    at hwords
  rw [placesColumns_append, Statement.selectTokens, placesColumns_append,
    placesColumns_intercalate (by simp)]
  cases counted with
  | perType types =>
    have htype (type : String) : placesColumns (Counted.typeColumnTokens type) = ["types"] := by
      simp [Counted.typeColumnTokens, placesColumns_typeIn, hwords]
    simp [Counted.columnTokens, Counted.totalColumnTokens, Counted.groupingTokens,
      Counted.placesColumns, List.flatMap_map, htype, hwords, List.subset_def]
  | _ =>
    simp [Counted.columnTokens, Counted.totalColumnTokens, Counted.groupingTokens,
      Counted.placesColumns, hwords, hid]

theorem placesColumns_cellTokens (resolution : Nat) :
    placesColumns (Statement.cellTokens resolution ++ Statement.cellGroupingTokens) ⊆
      ownColumns := by
  have hwords : ∀ text ∈ ["SELECT", "ARRAY_AGG", "h3_index", "AS", "indices", "place_count",
      "counts", "FROM", "COUNT", "GROUP", "BY", "WHERE", "IS", "NOT", "NULL"],
      (word text).placesColumn? = none := by decide
  have hpoint : (word "places.point").placesColumn? = some "point" := by decide
  simp only [List.forall_mem_cons, List.not_mem_nil, false_imp_iff, implies_true, and_true]
    at hwords
  simp [Statement.cellTokens, Statement.cellGroupingTokens, hwords, hpoint, ownColumns]

theorem placesColumns_preamble {preamble : Option Preamble}
    (h : ∀ p ∈ preamble, p.isVerbatim = false) :
    placesColumns ((preamble.map Preamble.tokens).getD []) = [] := by
  refine placesColumns_eq_nil fun href => ?_
  obtain ⟨_, _, hscript, -⟩ := references_preamble h href
  cases hscript

/-- A clause names what its conditions name. -/
theorem placesColumns_whereTokens {R : Type} [Coordinate R]
    (hrender : ∀ x : R, IsNumberText (Coordinate.render x)) {conditions : List (Condition R)}
    (h : ∀ c ∈ conditions, c.isVerbatim = false) :
    placesColumns (Statement.whereTokens conditions) ⊆
      conditions.flatMap Condition.placesColumns := by
  unfold Statement.whereTokens
  split
  · exact List.nil_subset _
  · have hwords : (word "WHERE").placesColumn? = none ∧ (word "AND").placesColumn? = none := by
      decide
    rw [placesColumns_cons, hwords.1, placesColumns_intercalate (by simp [hwords]),
      List.flatMap_map]
    intro name hname
    obtain ⟨c, hc, hname⟩ := List.mem_flatMap.mp hname
    exact List.mem_flatMap.mpr ⟨c, hc, placesColumns_condition hrender (h c hc) hname⟩

/-- A clause names whatever one of its conditions names. -/
theorem placesColumns_subset_whereTokens {R : Type} [Coordinate R]
    {conditions : List (Condition R)} {c : Condition R} (h : c ∈ conditions) :
    placesColumns c.tokens ⊆ placesColumns (Statement.whereTokens conditions) :=
  List.filterMap_subset _ (tokens_subset_whereTokens h)

theorem mem_placesColumns_region {R : Type} [Coordinate R] (column : RegionColumn)
    (names : List String) :
    column.field.name ∈ placesColumns (Condition.region column names : Condition R).tokens := by
  obtain ⟨field, type⟩ := column
  cases type <;> simp [Condition.tokens, unnestTokens]

/-! ## Columns of statements -/

namespace Statement

variable {R : Type} [Coordinate R] {preamble : Option Preamble} {conditions : List (Condition R)}

theorem placesColumns_count (hrender : ∀ x : R, IsNumberText (Coordinate.render x))
    (hpreamble : ∀ p ∈ preamble, p.isVerbatim = false)
    (hconditions : ∀ c ∈ conditions, c.isVerbatim = false) (counted : Counted) (source : Source) :
    placesColumns (count preamble counted source conditions).tokens ⊆
      ownColumns ++ counted.placesColumns ++ conditions.flatMap Condition.placesColumns := by
  have hselect := placesColumns_counted counted
  have hsource := placesColumns_source source
  have hwhere := placesColumns_whereTokens hrender hconditions
  rw [placesColumns_append, List.append_subset] at hselect
  simp only [tokens, placesColumns_append, placesColumns_preamble hpreamble, List.nil_append]
  grind

theorem placesColumns_cells (hrender : ∀ x : R, IsNumberText (Coordinate.render x))
    (hpreamble : ∀ p ∈ preamble, p.isVerbatim = false)
    (hconditions : ∀ c ∈ conditions, c.isVerbatim = false) (resolution : Nat) (source : Source) :
    placesColumns (cells preamble resolution source conditions).tokens ⊆
      ownColumns ++ conditions.flatMap Condition.placesColumns := by
  have hcells := placesColumns_cellTokens resolution
  have hsource := placesColumns_source source
  have hwhere := placesColumns_whereTokens hrender hconditions
  rw [placesColumns_append, List.append_subset] at hcells
  simp only [tokens, placesColumns_append, placesColumns_preamble hpreamble, List.nil_append]
  grind

theorem placesColumns_function (hrender : ∀ x : R, IsNumberText (Coordinate.render x))
    (dataset : String) (center : Point R) (meters resolution : Nat) (filters : FunctionSelection) :
    placesColumns (function dataset center meters resolution filters).tokens = [] := by
  refine placesColumns_eq_nil ?_
  rw [(references_function hrender dataset center meters resolution filters).1]
  exact List.not_mem_nil

end Statement

/-- A selection has conditions on its own attributes only, and none on regions. -/
theorem Selection.mem_placesColumns {R : Type} {s : Selection} {filter : Filter} {c : Condition R}
    (hc : c ∈ s.conditionsOf filter) {name : String} (hname : name ∈ c.placesColumns) :
    name ∈ ownColumns ∨ ∃ a ∈ s.attributes, name = a.name := by
  have hown (columns : List String) (hcolumns : columns ⊆ ownColumns)
      (h : c.placesColumns = columns) : name ∈ ownColumns := hcolumns (h ▸ hname)
  cases filter with
  | placeTypes =>
    rw [conditionsOf, List.mem_ite_nil_left] at hc
    obtain ⟨-, hc⟩ := hc
    split at hc <;> obtain rfl := List.mem_singleton.mp hc
    · exact .inl (hown ["primary_type"] (by decide) rfl)
    · exact .inl (hown ["types"] (by decide) rfl)
  | attributes =>
    obtain ⟨a, ha, rfl⟩ := List.mem_map.mp hc
    exact .inr ⟨a, ha, List.mem_singleton.mp hname⟩
  | rating =>
    rw [conditionsOf] at hc
    split at hc
    · obtain rfl := List.mem_singleton.mp hc
      exact .inl (hown ["rating"] (by decide) rfl)
    · obtain rfl := List.mem_singleton.mp hc
      exact .inl (hown ["rating"] (by decide) rfl)
    · obtain rfl := List.mem_singleton.mp hc
      exact .inl (hown ["rating"] (by decide) rfl)
    · cases hc
  | status =>
    obtain ⟨status, -, rfl⟩ := List.mem_map.mp hc
    exact .inl (hown ["business_status"] (by decide) rfl)
  | brandNames =>
    rw [conditionsOf, List.mem_ite_nil_left] at hc
    obtain rfl := List.mem_singleton.mp hc.2
    cases hname
  | brandCategory =>
    rw [conditionsOf] at hc
    split at hc
    · rw [List.mem_ite_nil_left] at hc
      obtain rfl := List.mem_singleton.mp hc.2
      cases hname
    · cases hc
  | hours =>
    rw [conditionsOf] at hc
    split at hc
    · rw [List.mem_ite_nil_left] at hc
      obtain rfl := List.mem_singleton.mp hc.2
      cases hname
    · cases hc

namespace Request

/-- A column that a statement may name: one of its own, an attribute of the selection, or the
    column of the searched regions. -/
def MayName {R : Type} (r : Request R) (name : String) : Prop :=
  name ∈ ownColumns ∨ (∃ a ∈ r.selection.attributes, name = a.name) ∨
    ∃ region ∈ r.scope.region, name = region.column.field.name

theorem mayName_of_mem_predicates {R : Type} [Coordinate R] {r : Request R}
    (hr : r.scope.IsResolved) {c : Condition R} (hc : c ∈ r.predicates) {name : String}
    (hname : name ∈ c.placesColumns) : r.MayName name := by
  rcases List.mem_append.mp hc with hc | hc
  · rw [Option.mem_toList] at hc
    rcases hr.cases with ⟨_, _, hscope⟩ | ⟨_, hscope⟩ | ⟨p, hscope⟩ |
        ⟨column, names, _, -, hscope⟩ | ⟨route, _, hscope⟩ <;>
      rw [hscope] at hc <;> cases hc
    · exact .inl (List.mem_singleton.mp hname ▸ by decide)
    · exact .inl (List.mem_singleton.mp hname ▸ by decide)
    · exact .inr (.inr ⟨⟨column, names⟩, by rw [hscope]; rfl, List.mem_singleton.mp hname⟩)
    · exact .inl (List.mem_singleton.mp hname ▸ by decide)
  · obtain ⟨filter, -, hc⟩ := List.mem_flatMap.mp hc
    exact (Selection.mem_placesColumns hc hname).imp_right .inl

/-- The statement of a request names no other columns. -/
theorem mayName_of_mem_statement {territory : Territory} {r : Request Degrees}
    (hr : r.scope.IsResolved) {name : String}
    (hname : name ∈ placesColumns (r.statement territory).tokens) : r.MayName name := by
  have hrender (x : Degrees) : IsNumberText (Coordinate.render x) :=
    isNumberText_plainNumber x.value
  have hconditions : ∀ c ∈ r.predicates, c.isVerbatim = false :=
    fun c hc => (isWritten_of_mem_predicates hr hc).isVerbatim_eq
  have hwhere (h : name ∈ r.predicates.flatMap Condition.placesColumns) : r.MayName name := by
    obtain ⟨c, hc, hname⟩ := List.mem_flatMap.mp h
    exact mayName_of_mem_predicates hr hc hname
  have hcount (counted : Counted) (hcounted : ∀ column ∈ counted.placesColumns, r.MayName column)
      (h : name ∈ placesColumns (Statement.count r.scope.preamble counted (r.source territory)
        r.predicates).tokens) : r.MayName name := by
    rcases List.mem_append.mp (Statement.placesColumns_count hrender hr.preamble_isVerbatim
      hconditions counted _ h) with h | h
    · rcases List.mem_append.mp h with h | h
      · exact .inl h
      · exact hcounted name h
    · exact hwhere h
  unfold statement at hname
  rw [conditions_eq] at hname
  cases hshape : r.features.shape with
  | function =>
    rw [hshape] at hname
    dsimp only at hname
    rw [Statement.placesColumns_function hrender] at hname
    cases hname
  | cells =>
    rw [hshape] at hname
    rcases List.mem_append.mp (Statement.placesColumns_cells hrender hr.preamble_isVerbatim
      hconditions _ _ hname) with h | h
    · exact .inl h
    · exact hwhere h
  | perRegion =>
    rw [hshape] at hname
    obtain ⟨region, hregion, hfield⟩ := region_of_perRegion hshape
    refine hcount (.perRegion r.regionField) (fun column hcolumn => ?_) hname
    exact .inr (.inr ⟨region, hregion, hfield ▸ List.mem_singleton.mp hcolumn⟩)
  | perBrand =>
    rw [hshape] at hname
    exact hcount .perBrand (List.forall_mem_singleton.mpr (.inl (by decide))) hname
  | perType =>
    rw [hshape] at hname
    exact hcount (.perType r.selection.placeTypes)
      (List.forall_mem_singleton.mpr (.inl (by decide))) hname
  | total =>
    rw [hshape] at hname
    exact hcount .total (List.forall_mem_nil _) hname

/-- A search for regions names their column, unless it is left to the density function. -/
theorem regionColumn_mem_statement {territory : Territory} {r : Request Degrees}
    (hr : r.scope.IsResolved) (hshape : r.features.shape ≠ .function) {region : RegionMatch}
    (hregion : r.scope.region = some region) :
    region.column.field.name ∈ placesColumns (r.statement territory).tokens := by
  have hpredicate : .region region.column region.names ∈ r.predicates := by
    refine List.mem_append_left _ (Option.mem_toList.mpr ?_)
    rcases hr.cases with ⟨_, _, hscope⟩ | ⟨_, hscope⟩ | ⟨_, hscope⟩ |
        ⟨column, names, _, -, hscope⟩ | ⟨_, _, hscope⟩ <;>
      rw [hscope] at hregion ⊢ <;> cases hregion
    rfl
  have hwhere := placesColumns_subset_whereTokens hpredicate
    (mem_placesColumns_region region.column region.names)
  rcases statement_eq territory hshape with ⟨counted, h⟩ | h <;>
    simp [h, Statement.tokens, hwhere]

/-- What users choose among these columns is a plain name. -/
theorem MayName.matchesName {R : Type} {r : Request R} {name : String} (h : r.MayName name)
    (hown : name ∉ ownColumns) : Sql.MatchesName name.toList := by
  rcases h with h | ⟨a, -, rfl⟩ | ⟨region, -, rfl⟩
  · exact absurd h hown
  · exact a.matchesName
  · exact region.column.field.matchesName

theorem MayName.not_breaksName {R : Type} {r : Request R} {name : String} (h : r.MayName name)
    {c : Char} (hc : c ∈ name.toList) : ¬ Sql.BreaksName c := by
  by_cases hown : name ∈ ownColumns
  · have hall : ∀ column ∈ ownColumns,
        column.toList.all (fun c => Sql.isNamePart c || c == '.') = true := by decide
    have hpart := List.all_eq_true.mp (hall name hown) c hc
    rw [Bool.or_eq_true, Sql.isNamePart_iff, beq_iff_eq] at hpart
    rcases hpart with hpart | rfl
    · exact hpart.not_breaksName
    · unfold Sql.BreaksName
      decide
  · exact ((h.matchesName hown).continuesName hc).not_breaksName

/-- A reader finds the column of the searched regions in a statement, and no other columns but its
    own and attributes; nothing in their names ends a name. -/
theorem mayName_of_statement {edition : Edition} {label : String} {territory : Territory}
    (hterritory : Territory.lookup? edition label = some territory) {r : Request Degrees}
    (hr : r.scope.IsResolved) :
    ∃ ts, Sql.tokenize (r.statement territory).render = some ts ∧
      (∀ region ∈ r.scope.region, r.features.shape ≠ .function →
        region.column.field.name ∈ placesColumns ts) ∧
      ∀ name ∈ placesColumns ts, r.MayName name ∧
        (name ∉ ownColumns → Sql.MatchesName name.toList) ∧
        ∀ c ∈ name.toList, ¬ Sql.BreaksName c := by
  refine ⟨_, tokenize_statement hterritory hr, fun region hregion hshape => ?_,
    fun name hname => ?_⟩
  · exact regionColumn_mem_statement hr hshape hregion
  · have hmay := mayName_of_mem_statement hr hname
    exact ⟨hmay, hmay.matchesName, fun c hc => hmay.not_breaksName hc⟩

end Request

/-! ## Selectors and statements -/

namespace RegionColumn

/-- Selectors are plain names with one of two endings, each for the column of that name and
    type. So a statement names columns of its own, attributes and the column of a selector, and
    nothing that could break out of a name. -/
theorem admitsOnlyNames :
    (∀ text column, ofSelector text = .ok column ↔
      ∃ name : String, Sql.MatchesName name.toList ∧ column.field.name = name ∧
        (text = name ++ "|STRING" ∧ column.type = .string ∨
          text = name ++ "|ARRAY" ∧ column.type = .array)) ∧
    (∀ text, (∃ column, ofSelector text = .ok column) ↔
      ∃ name : String, Sql.MatchesName name.toList ∧
        (text = name ++ "|STRING" ∨ text = name ++ "|ARRAY")) ∧
    (∀ column, ofSelector column.selector = .ok column) ∧
    (∀ text column, ofSelector text = .ok column →
      text.toList.count '|' = 1 ∧ ∀ c ∈ text.toList, c ≠ '|' → ¬ Sql.BreaksName c) ∧
    ∀ edition label territory (r : Request Degrees),
      Territory.lookup? edition label = some territory → r.scope.IsResolved →
      ∃ ts, Sql.tokenize (r.statement territory).render = some ts ∧
        (∀ region ∈ r.scope.region, r.features.shape ≠ .function →
          region.column.field.name ∈ placesColumns ts) ∧
        ∀ name ∈ placesColumns ts, r.MayName name ∧
          (name ∉ ownColumns → Sql.MatchesName name.toList) ∧
          ∀ c ∈ name.toList, ¬ Sql.BreaksName c :=
  ⟨fun _ _ => ofSelector_eq_ok_iff.trans eq_selector_iff, fun _ => exists_ofSelector_eq_ok_iff,
    fun _ => ofSelector_eq_ok_iff.mpr rfl, fun _ _ => bars_of_ofSelector_eq_ok,
    fun _ _ _ _ hterritory hr => Request.mayName_of_statement hterritory hr⟩

/-- A search of Berlin for one region of a column. -/
def regionSearch (column : RegionColumn) : Request Degrees :=
  let bounds := Box.ofPoint ⟨.ofFloat 52.5, .ofFloat 13.4⟩
  { routeSearch "" [] with
    scope := ⟨some (.region column ["Mitte"]), bounds.center, none, some ⟨column, ["Mitte"]⟩,
      some bounds⟩ }

theorem regionSearch_isResolved (column : RegionColumn) :
    (regionSearch column).scope.IsResolved := by
  let services : Services Degrees :=
    .knowing [("Mitte, Berlin, Germany", Box.ofPoint ⟨.ofFloat 52.5, .ofFloat 13.4⟩)]
  have hnames : Resolved.regionNames " mitte" [] = ["Mitte"] := by decide
  have hready : (Resolved.region services (some column) " mitte" [] berlin.label).value =
      .ready (regionSearch column).scope := by
    unfold Resolved.region
    rw [hnames]
    rfl
  exact .region hready

theorem admitsOnlyNames_localities :
    ∃ column, ofSelector "locality_names|ARRAY" = .ok column ∧
      (∀ text ∈ ["a|b|ARRAY", "a |STRING", "a'|ARRAY"], ∀ column, ofSelector text ≠ .ok column) ∧
      ∃ ts, Sql.tokenize ((regionSearch column).statement berlin).render = some ts ∧
        "locality_names" ∈ placesColumns ts := by
  let column : RegionColumn := ⟨⟨"locality_names", by decide⟩, .array⟩
  have hshape : (regionSearch column).features.shape ≠ .function := by decide
  obtain ⟨-, -, hselector, hbars, hstatement⟩ := admitsOnlyNames
  obtain ⟨ts, hts, hnamed, -⟩ :=
    hstatement .sample "Berlin, Germany" berlin (regionSearch column) lookup?_berlin
      (regionSearch_isResolved column)
  refine ⟨column, hselector column, fun text htext column hcolumn => ?_, ts, hts,
    hnamed _ rfl hshape⟩
  obtain ⟨hcount, hchars⟩ := hbars text column hcolumn
  have hblank : Sql.BreaksName ' ' := by
    unfold Sql.BreaksName
    decide
  have hquote : Sql.BreaksName '\'' := by
    unfold Sql.BreaksName
    decide
  simp only [List.mem_cons, List.not_mem_nil, or_false] at htext
  rcases htext with rfl | rfl | rfl
  · exact absurd hcount (by decide)
  · exact hchars ' ' (by decide) (by decide) hblank
  · exact hchars '\'' (by decide) (by decide) hquote

end RegionColumn

end PlaceSearch
