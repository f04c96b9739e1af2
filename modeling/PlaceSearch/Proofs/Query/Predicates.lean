-- SUMMARY: The WHERE clause of a request is the conjunction of the conditions of its area and of its filters, each once and in order.
import PlaceSearch.Proofs.Query.Conjunction
import PlaceSearch.Proofs.Query.Outline

/-!
# Predicates of requests

What a request asks for in its `WHERE` clause is one condition for its area and
those of the filters that are set, in a fixed order. Every statement but a
function call has the clause right behind its source, and the clause reads as
the conjunction of these conditions.
-/

namespace PlaceSearch

open Sql (Mark Fragment Balanced IsWord)
open Sql.Fragment (marks code)

/-! ## Filters -/

/-- The filters of a selection. -/
inductive Filter where
  | placeTypes
  | attributes
  | rating
  | status
  | brandNames
  | brandCategory
  | hours
deriving DecidableEq, Repr

/-- The order in which the filters have their conditions. -/
def Filter.inOrder : List Filter :=
  [.placeTypes, .attributes, .rating, .status, .brandNames, .brandCategory, .hours]

variable {R : Type}

/-- The conditions of one filter: one for each attribute, one for any other
    filter that is set, and none for a filter that is not. -/
def Selection.conditionsOf (s : Selection) : Filter → List (Condition R)
  | .placeTypes =>
    if s.placeTypes = [] then []
    else if s.primaryTypeOnly then [.primaryType s.placeTypes]
    else [.anyType s.placeTypes]
  | .attributes => s.attributes.map .attribute
  | .rating =>
    match s.rating.min.filter Float.isFinite, s.rating.max.filter Float.isFinite with
    | some min, some max => [.rating (.between min max)]
    | some min, none => [.rating (.atLeast min)]
    | none, some max => [.rating (.atMost max)]
    | none, none => []
  | .status => s.status.toList.map .status
  | .brandNames => if s.brandNames = [] then [] else [.brandName s.brandNames]
  | .brandCategory =>
    match s.brandCategory with
    | some category => if category = "" then [] else [.brandCategory category]
    | none => []
  | .hours =>
    match s.hours with
    | some w => if w.start = none ∧ w.finish = none then [] else [.hours w.start w.finish]
    | none => []

/-- The conditions of a selection are those of its filters, in order. -/
theorem Selection.conditions_eq (s : Selection) :
    (s.conditions : List (Condition R)) = Filter.inOrder.flatMap s.conditionsOf := by
  have htypes : (Condition.ofPlaceTypes? s.placeTypes s.primaryTypeOnly :
      Option (Condition R)).toList = s.conditionsOf .placeTypes := by
    unfold Condition.ofPlaceTypes? conditionsOf
    cases s.placeTypes with
    | nil => rfl
    | cons type rest => cases s.primaryTypeOnly <;> simp
  have hrating : (s.rating.bound?.map .rating : Option (Condition R)).toList =
      s.conditionsOf .rating := by
    unfold RatingRange.bound? RatingRange.finite conditionsOf
    cases s.rating.min.filter Float.isFinite <;> cases s.rating.max.filter Float.isFinite <;> rfl
  have hstatus : (s.status.map .status : Option (Condition R)).toList =
      s.conditionsOf .status := by
    cases h : s.status <;> simp [conditionsOf, h]
  have hnames : (Condition.ofBrandNames? s.brandNames : Option (Condition R)).toList =
      s.conditionsOf .brandNames := by
    unfold Condition.ofBrandNames? conditionsOf
    cases s.brandNames <;> simp
  have hcategory : (s.brandCategory.bind Condition.ofBrandCategory? :
      Option (Condition R)).toList = s.conditionsOf .brandCategory := by
    unfold conditionsOf
    cases s.brandCategory with
    | none => rfl
    | some category =>
      by_cases h : category = "" <;> simp [Condition.ofBrandCategory?, h]
  have hhours : (s.effectiveHours.map fun w => .hours w.start w.finish :
      Option (Condition R)).toList = s.conditionsOf .hours := by
    unfold effectiveHours conditionsOf
    cases s.hours with
    | none => rfl
    | some w =>
      obtain ⟨day, start, finish⟩ := w
      cases start <;> cases finish <;> rfl
  rw [conditions, htypes, hrating, hstatus, hnames, hcategory, hhours]
  simp [Filter.inOrder, conditionsOf]

theorem Selection.isWritten_of_mem_conditionsOf {s : Selection} {filter : Filter}
    {c : Condition R} (h : c ∈ s.conditionsOf filter) : c.IsWritten := by
  cases filter with
  | placeTypes =>
    rw [conditionsOf, List.mem_ite_nil_left] at h
    obtain ⟨hne, h⟩ := h
    split at h
    · obtain rfl := List.mem_singleton.mp h
      trivial
    · obtain rfl := List.mem_singleton.mp h
      exact hne
  | attributes =>
    obtain ⟨name, -, rfl⟩ := List.mem_map.mp h
    trivial
  | rating =>
    rw [conditionsOf] at h
    split at h
    · obtain rfl := List.mem_singleton.mp h
      trivial
    · obtain rfl := List.mem_singleton.mp h
      trivial
    · obtain rfl := List.mem_singleton.mp h
      trivial
    · cases h
  | status =>
    obtain ⟨status, -, rfl⟩ := List.mem_map.mp h
    trivial
  | brandNames =>
    rw [conditionsOf, List.mem_ite_nil_left] at h
    obtain rfl := List.mem_singleton.mp h.2
    trivial
  | brandCategory =>
    rw [conditionsOf] at h
    split at h
    · rw [List.mem_ite_nil_left] at h
      obtain rfl := List.mem_singleton.mp h.2
      trivial
    · cases h
  | hours =>
    rw [conditionsOf] at h
    split at h
    · rw [List.mem_ite_nil_left] at h
      obtain rfl := List.mem_singleton.mp h.2
      exact Classical.not_and_iff_not_or_not.mp h.1
    · cases h

/-- The conditions of a request: that of its area, then those of its filters. -/
def Request.predicates (r : Request R) : List (Condition R) :=
  r.scope.condition.toList ++ Filter.inOrder.flatMap r.selection.conditionsOf

theorem Request.conditions_eq (r : Request R) : r.conditions = r.predicates := by
  rw [conditions, predicates, Selection.conditions_eq]

/-- What an area resolves to and what a filter asks for says something. -/
theorem Request.isWritten_of_mem_predicates [Coordinate R] {r : Request R}
    (hr : r.scope.IsResolved) {c : Condition R} (h : c ∈ r.predicates) : c.IsWritten := by
  rcases List.mem_append.mp h with h | h
  · rw [Option.mem_toList] at h
    rcases hr.cases with ⟨_, _, hscope⟩ | ⟨_, hscope⟩ | ⟨_, hscope⟩ | ⟨_, _, _, -, hscope⟩ |
        ⟨_, _, hscope⟩ <;>
      rw [hscope] at h <;> cases h <;> trivial
  · obtain ⟨filter, -, h⟩ := List.mem_flatMap.mp h
    exact Selection.isWritten_of_mem_conditionsOf h

/-! ## Where the clause stands -/

/-- The statement has the clause between its source and its grouping, and a
    scanner is outside literals at both ends of it. -/
def Statement.HasWhere [Coordinate R] (s : Statement R) (source : Source) (clause : String) :
    Prop :=
  ∃ lead gap back : String,
    (gap = " " ∨ gap = "\n  ") ∧ (back = "" ∨ ∃ rest, back = gap ++ ("GROUP BY " ++ rest)) ∧
    s.render = lead ++ source.toSql.render ++ (if clause = "" then "" else gap) ++ clause ++ back ∧
    ∃ before within behind,
      Sql.mask (lead ++ source.toSql.render ++ if clause = "" then "" else gap) = some before ∧
      Sql.mask clause = some within ∧ Sql.mask back = some behind ∧
      Sql.mask s.render = some (before ++ within ++ behind)

namespace Sql.Fragment

/-- A part behind one space, or nothing if it is empty. -/
def behindSpace (f : Fragment) : Fragment := if f.render.isEmpty then [] else code " " ++ f

theorem spaced_cons_of_isEmpty {f : Fragment} (h : f.render.isEmpty = true) (rest : List Fragment) :
    spaced (f :: rest) = spaced rest := by
  rw [spaced, List.filter_cons_of_neg (by simp [h]), ← spaced]

theorem spaced_cons {f : Fragment} (h : f.render.isEmpty = false) (rest : List Fragment) :
    spaced (f :: rest) = f ++ rest.flatMap behindSpace := by
  rw [spaced, List.filter_cons_of_pos (by simp [h]), join,
    intercalate_cons_eq_append_flatMap, List.append_cancel_left_eq]
  induction rest with
  | nil => rfl
  | cons g rest ih =>
    cases hg : g.render.isEmpty with
    | true => simpa [behindSpace, hg] using ih
    | false => simpa [behindSpace, hg] using ih

theorem behindSpace_of_isEmpty_eq_false {f : Fragment} (h : f.render.isEmpty = false) :
    behindSpace f = code " " ++ f := by
  rw [behindSpace, h]
  rfl

theorem Closed.behindSpace {f : Fragment} (h : f.Closed) : (behindSpace f).Closed := by
  unfold Fragment.behindSpace
  split
  · exact .nil
  · exact (Closed.code (by decide)).append h

end Sql.Fragment

namespace Statement

variable [Coordinate R]

/-- A statement in closed parts has its clause where the parts say. -/
theorem HasWhere.of_toSql_eq {s : Statement R} {source : Source} {lead gap clause back : Fragment}
    (hlead : lead.Closed) (hsource : source.toSql.Closed) (hgap : gap.Closed)
    (hclause : clause.Closed) (hback : back.Closed)
    (hblank : gap.render = " " ∨ gap.render = "\n  ")
    (hgrouping : back.render = "" ∨ ∃ rest, back.render = gap.render ++ ("GROUP BY " ++ rest))
    (heq : s.toSql =
      lead ++ source.toSql ++ (if clause.render = "" then [] else gap) ++ clause ++ back) :
    s.HasWhere source clause.render := by
  have hbetween : (if clause.render = "" then [] else gap : Fragment).Closed := by
    split
    · exact .nil
    · exact hgap
  have hrender : (if clause.render = "" then [] else gap : Fragment).render =
      if clause.render = "" then "" else gap.render := by
    split <;> rfl
  have hbefore := (hlead.append hsource).append hbetween
  have htext : (lead ++ source.toSql ++ (if clause.render = "" then [] else gap)).render =
      lead.render ++ source.toSql.render ++ (if clause.render = "" then "" else gap.render) := by
    rw [Sql.Fragment.render_append, Sql.Fragment.render_append, hrender]
  have hwhole : s.render = (lead ++ source.toSql ++
      (if clause.render = "" then [] else gap) ++ clause ++ back).render := by
    rw [render, heq]
  have hmask := Sql.Fragment.mask_render ((hbefore.append hclause).append hback).scannable
  rw [← hwhole, Sql.Fragment.marks_append, Sql.Fragment.marks_append] at hmask
  have hmaskBefore := Sql.Fragment.mask_render hbefore.scannable
  rw [htext] at hmaskBefore
  rw [Sql.Fragment.render_append, Sql.Fragment.render_append, htext] at hwhole
  exact ⟨lead.render, gap.render, back.render, hblank, hgrouping, hwhole, _, _, _, hmaskBefore,
    Sql.Fragment.mask_render hclause.scannable, Sql.Fragment.mask_render hback.scannable, hmask⟩

theorem render_whereClause_eq_empty_iff {conditions : List (Condition R)} :
    (whereClause conditions).render = "" ↔ conditions = [] := by
  unfold whereClause Fragment.whereAll
  cases conditions with
  | nil => simp
  | cons c rest => simp [code, Sql.Piece.render]

theorem behindSpace_whereClause (conditions : List (Condition R)) :
    Sql.Fragment.behindSpace (whereClause conditions) =
      (if (whereClause conditions).render = "" then [] else code " ") ++
        whereClause conditions := by
  unfold Sql.Fragment.behindSpace
  by_cases h : (whereClause conditions).render = ""
  · obtain rfl := render_whereClause_eq_empty_iff.mp h
    rfl
  · rw [if_neg (by rwa [String.isEmpty_iff]), if_neg h]

theorem isEmpty_render_source (source : Source) : source.toSql.render.isEmpty = false := by
  simp [Source.toSql, toString, code, Sql.Piece.render]

/-! ### Counting statements -/

/-- What a counting statement selects. -/
def countSelect (counted : Counted) : Fragment :=
  code s!"SELECT {privacyQualifier} " ++ counted.columns

/-- What a counting statement says in front of its source. -/
def countLead (preamble : Option Preamble) (counted : Counted) : Fragment :=
  let declared := (preamble.map Preamble.toSql).getD []
  (if declared.render.isEmpty then [] else declared ++ code " ") ++ countSelect counted ++ code " "

theorem closed_countLead {preamble : Option Preamble} {counted : Counted}
    (hpreamble : ∀ p ∈ preamble, p.isVerbatim = false) (hcounted : counted.IsBare) :
    (countLead preamble counted).Closed := by
  have hselect : (countSelect counted).Closed :=
    (Sql.Fragment.Closed.code (by decide)).append (Counted.closed_columns hcounted)
  refine (Sql.Fragment.Closed.append ?_ hselect).append (.code (by decide))
  split
  · exact .nil
  · cases preamble with
    | none => exact .append .nil (.code (by decide))
    | some p => exact (Preamble.closed_toSql (hpreamble p rfl)).append (.code (by decide))

theorem toSql_count_eq (preamble : Option Preamble) (counted : Counted) (source : Source)
    (conditions : List (Condition R)) :
    (count preamble counted source conditions).toSql =
      countLead preamble counted ++ source.toSql ++
        (if (whereClause conditions).render = "" then [] else code " ") ++ whereClause conditions ++
        counted.grouping.behindSpace := by
  have hparts : (count preamble counted source conditions).toSql = Fragment.spaced
      [(preamble.map Preamble.toSql).getD [], countSelect counted, source.toSql,
        whereClause conditions, counted.grouping] := rfl
  have hselect : (countSelect counted).render.isEmpty = false := by
    simp [countSelect, toString, code, Sql.Piece.render]
  have hsource := Sql.Fragment.behindSpace_of_isEmpty_eq_false (isEmpty_render_source source)
  rw [hparts]
  cases hempty : ((preamble.map Preamble.toSql).getD []).render.isEmpty with
  | true =>
    rw [Sql.Fragment.spaced_cons_of_isEmpty hempty, Sql.Fragment.spaced_cons hselect]
    simp [countLead, hempty, hsource, behindSpace_whereClause]
  | false =>
    rw [Sql.Fragment.spaced_cons hempty]
    simp [countLead, hempty, hsource, Sql.Fragment.behindSpace_of_isEmpty_eq_false hselect,
      behindSpace_whereClause]

/-- A counting statement has its clause behind its source. -/
theorem hasWhere_count (hbare : ∀ x : R, Sql.Bare (Coordinate.render x))
    {preamble : Option Preamble} {counted : Counted} {source : Source}
    {conditions : List (Condition R)}
    (h : (count preamble counted source conditions).IsBuilt) :
    (count preamble counted source conditions).HasWhere source (whereClause conditions).render := by
  obtain ⟨hpreamble, hcounted, hsource, hconditions⟩ := h
  have hgap : (code " ").Closed := .code (by decide)
  have hgrouping : counted.grouping.behindSpace.render = "" ∨
      ∃ rest, counted.grouping.behindSpace.render = " " ++ ("GROUP BY " ++ rest) := by
    cases counted with
    | total => exact .inl rfl
    | perType types => exact .inl rfl
    | perBrand => exact .inr ⟨"brands.name ORDER BY count DESC", by decide⟩
    | perRegion field => exact .inr ⟨"region_name ORDER BY count DESC", rfl⟩
  exact .of_toSql_eq (closed_countLead hpreamble hcounted) (Source.closed_toSql hsource) hgap
    (closed_whereClause hbare hconditions) (Counted.closed_grouping counted).behindSpace (.inl rfl)
    hgrouping (toSql_count_eq preamble counted source conditions)

/-! ### Cell statements -/

/-- What a cell statement says in front of its source. -/
def cellLead (preamble : Option Preamble) (resolution : Nat) : Fragment :=
  (preamble.map fun p => p.toSql ++ code "\n").getD [] ++
    code ("SELECT\n  ARRAY_AGG(h3_index) AS indices,\n  ARRAY_AGG(place_count) AS counts\n" ++
      "FROM (\n  ") ++
    (code "SELECT" ++ code "\n") ++
    (code s!"    {cellOfPoint}(places.point, {resolution}) AS h3_index," ++ code "\n") ++
    (code "    COUNT(*) AS place_count" ++ code "\n") ++ code "  "

/-- What a cell statement says behind its conditions. -/
def cellBack : Fragment :=
  code "\n" ++ code "  GROUP BY h3_index" ++ code "\n)\nWHERE h3_index IS NOT NULL"

theorem closed_cellLead {preamble : Option Preamble} (resolution : Nat)
    (hpreamble : ∀ p ∈ preamble, p.isVerbatim = false) :
    (cellLead preamble resolution).Closed := by
  have hline : ∀ {text : String}, Sql.Bare text → (code text ++ code "\n").Closed :=
    fun h => (Sql.Fragment.Closed.code h).append (.code (by decide))
  have hcell : Sql.Bare s!"    {cellOfPoint}(places.point, {resolution}) AS h3_index," := by
    simp
    decide
  have hdeclared : ((preamble.map fun p => p.toSql ++ code "\n").getD []).Closed := by
    cases preamble with
    | none => exact .nil
    | some p => exact (Preamble.closed_toSql (hpreamble p rfl)).append (.code (by decide))
  exact ((((hdeclared.append (.code (by decide))).append (hline (by decide))).append
    (hline hcell)).append (hline (by decide))).append (.code (by decide))

theorem toSql_cells_eq (preamble : Option Preamble) (resolution : Nat) (source : Source)
    (conditions : List (Condition R)) :
    (cells preamble resolution source conditions).toSql =
      cellLead preamble resolution ++ source.toSql ++
        (if (whereClause conditions).render = "" then [] else code "\n" ++ code "  ") ++
        whereClause conditions ++ cellBack := by
  cases conditions with
  | nil =>
    simp only [toSql, cellLines, cellLead, cellBack, whereClause, Fragment.whereAll,
      Fragment.join, List.isEmpty_nil, List.map_nil, if_true, Sql.Fragment.render_nil,
      List.cons_append, List.nil_append, List.append_nil, List.append_assoc,
      List.intercalate_cons_cons, List.intercalate_singleton]
  | cons c rest =>
    have hne : (whereClause (c :: rest)).render ≠ "" :=
      fun h => List.cons_ne_nil _ _ (render_whereClause_eq_empty_iff.mp h)
    rw [if_neg hne]
    simp only [toSql, cellLines, cellLead, cellBack, Fragment.join, List.isEmpty_cons,
      Bool.false_eq_true, if_false, List.cons_append, List.nil_append, List.append_assoc,
      List.intercalate_cons_cons, List.intercalate_singleton]

/-- A cell statement has its clause behind its source. -/
theorem hasWhere_cells (hbare : ∀ x : R, Sql.Bare (Coordinate.render x))
    {preamble : Option Preamble} {resolution : Nat} {source : Source}
    {conditions : List (Condition R)}
    (h : (cells preamble resolution source conditions).IsBuilt) :
    (cells preamble resolution source conditions).HasWhere source
      (whereClause conditions).render := by
  obtain ⟨hpreamble, hsource, hconditions⟩ := h
  have hgap : (code "\n" ++ code "  ").Closed :=
    (Sql.Fragment.Closed.code (by decide)).append (.code (by decide))
  have hback : cellBack.Closed :=
    ((Sql.Fragment.Closed.code (by decide)).append (.code (by decide))).append (.code (by decide))
  have hgrouping : cellBack.render =
      "\n  " ++ ("GROUP BY " ++ "h3_index\n)\nWHERE h3_index IS NOT NULL") := rfl
  exact .of_toSql_eq (closed_cellLead resolution hpreamble) (Source.closed_toSql hsource) hgap
    (closed_whereClause hbare hconditions) hback (.inr rfl) (.inr ⟨_, hgrouping⟩)
    (toSql_cells_eq preamble resolution source conditions)

end Statement

/-! ## Requests -/

theorem isWord_renderDegrees (x : Degrees) : IsWord (Mark.ofString (Coordinate.render x)) :=
  isWord_plainNumber x.value

/-- Every statement but a function call has the clause of its request behind its source. -/
theorem Request.hasWhere_statement {edition : Edition} {label : String} {territory : Territory}
    (hterritory : Territory.lookup? edition label = some territory) {r : Request Degrees}
    (hr : r.scope.IsResolved) (hshape : (r.statement territory).shape ≠ .function) :
    (r.statement territory).HasWhere (r.source territory)
      (Statement.whereClause r.predicates).render := by
  have hbuilt := Request.isBuilt_statement hterritory hr
  rw [shape_statement] at hshape
  rw [← conditions_eq]
  unfold statement at hbuilt ⊢
  cases hfeatures : r.features.shape <;> rw [hfeatures] at hbuilt
  case function => exact absurd hfeatures hshape
  case cells => exact Statement.hasWhere_cells bare_renderDegrees hbuilt
  all_goals exact Statement.hasWhere_count bare_renderDegrees hbuilt

/-- Two or more alternatives are in parentheses. -/
theorem Condition.mask_anyType {types : List String} (h : 1 < types.length) :
    ∃ inner, Sql.mask (anyType types : Condition Degrees).toSql.render =
      some (.char '(' :: (inner ++ [.char ')'])) ∧ Balanced inner := by
  have hmarks : marks (anyType types : Condition Degrees).toSql =
      .char '(' :: (marks (Fragment.join " OR " (types.map typeIn)) ++ [.char ')']) := by
    rw [toSql, if_pos h]
    simp [Mark.ofString]
  refine ⟨_, ?_, balanced_alternatives types⟩
  rw [← hmarks]
  exact Sql.Fragment.mask_render (closed_toSql bare_renderDegrees rfl).scannable

/-- A search for several place types in all types of a place asks for any of them. -/
theorem Request.anyType_mem_predicates {r : Request R} (hall : r.selection.primaryTypeOnly = false)
    (hne : r.selection.placeTypes ≠ []) : .anyType r.selection.placeTypes ∈ r.predicates := by
  have htypes : (.anyType r.selection.placeTypes : Condition R) ∈
      r.selection.conditionsOf .placeTypes := by
    simp [Selection.conditionsOf, hall, hne]
  exact List.mem_append_right _ (List.mem_flatMap.mpr ⟨.placeTypes, by decide, htypes⟩)

/-- In every statement but a function call, the clause behind the source is the
    conjunction of the condition of the area and of the conditions of the filters,
    each of them once, in order, and grouped as it is by itself. -/
theorem Request.where_isConjunction {edition : Edition} {label : String} {territory : Territory}
    (hterritory : Territory.lookup? edition label = some territory) {r : Request Degrees}
    (hr : r.scope.IsResolved) (hshape : (r.statement territory).shape ≠ .function) :
    ∃ clause, (r.statement territory).HasWhere (r.source territory) clause ∧
      (r.predicates = [] → clause = "") ∧
      (r.predicates ≠ [] →
        ∃ masks, Conjunction clause (r.predicates.map fun c => c.toSql.render) masks) ∧
      (r.selection.primaryTypeOnly = false → 1 < r.selection.placeTypes.length →
        .anyType r.selection.placeTypes ∈ r.predicates ∧
        ∃ inner, Sql.mask (Condition.anyType r.selection.placeTypes :
            Condition Degrees).toSql.render = some (.char '(' :: (inner ++ [.char ')'])) ∧
          Balanced inner) := by
  refine ⟨_, hasWhere_statement hterritory hr hshape, ?_, ?_, ?_⟩
  · exact Statement.render_whereClause_eq_empty_iff.mpr
  · intro hne
    exact ⟨_, Statement.conjunction_whereClause bare_renderDegrees isWord_renderDegrees hne
      fun c hc => isWritten_of_mem_predicates hr hc⟩
  · intro hall hseveral
    have hne : r.selection.placeTypes ≠ [] := List.ne_nil_of_length_pos (by omega)
    exact ⟨anyType_mem_predicates hall hne, Condition.mask_anyType hseveral⟩

/-- Texts that try to open alternatives of their own do not. -/
theorem where_isConjunction_hostile :
    let r : Request Degrees := { routeSearch "LINESTRING(13 52, 14 52)" [] with
      selection := { Selection.fresh with
        placeTypes := ["cafe') OR (TRUE", "bar OR -- "]
        brandNames := ["x\") OR (\"\"=\""]
        hours := some ⟨.monday, some ⟨9, 0, 0⟩, some ⟨17, 30, 0⟩⟩ } }
    (r.statement berlin).shape = .perBrand ∧
    r.predicates = [.alongRoute 100, .anyType ["cafe') OR (TRUE", "bar OR -- "],
      .status .operational, .brandName ["x\") OR (\"\"=\""],
      .hours (some ⟨9, 0, 0⟩) (some ⟨17, 30, 0⟩)] ∧
    ∃ clause, (r.statement berlin).HasWhere (r.source berlin) clause ∧
      ∃ masks, Conjunction clause (r.predicates.map fun c => c.toSql.render) masks := by
  intro r
  have hresolved : r.scope.IsResolved := routeSearch_isResolved _ []
  have hshape : (r.statement berlin).shape = .perBrand := Request.shape_statement r berlin
  have hpredicates : r.predicates = [.alongRoute 100, .anyType ["cafe') OR (TRUE", "bar OR -- "],
      .status .operational, .brandName ["x\") OR (\"\"=\""],
      .hours (some ⟨9, 0, 0⟩) (some ⟨17, 30, 0⟩)] := rfl
  obtain ⟨clause, hwhere, -, hconjunction, -⟩ :=
    Request.where_isConjunction lookup?_berlin hresolved (by rw [hshape]; decide)
  exact ⟨hshape, hpredicates, clause, hwhere, hconjunction (by rw [hpredicates]; simp)⟩

end PlaceSearch
