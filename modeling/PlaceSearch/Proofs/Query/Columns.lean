-- SUMMARY: The columns of a statement with one count for each place type, and when their names differ.
import Mathlib.Data.List.Nodup
import PlaceSearch.Proofs.Query.Clauses

/-!
# Columns of place types

A search for several place types selects one count for each of them, in the order
of the selection, and then the count of all places. The names of the columns are
made from the types, but every character that may not stand in a name becomes an
underscore, so types that differ may share a name, and the type `total` shares its
name with the last column. Nothing tells such columns apart.
-/

namespace PlaceSearch

open Sql.Token (word symbol)

namespace Counted

/-- A type with a plain name keeps it. -/
theorem columnStem_eq_self {type : String} (h : ∀ c ∈ type.toList, Sql.isNamePart c = true) :
    columnStem type = type := by
  have hchars : type.toList.map (fun c => if c.isAlphanum then c else '_') = type.toList := by
    conv_rhs => rw [← List.map_id type.toList]
    refine List.map_congr_left fun c hc => ?_
    have hpart := h c hc
    rw [Sql.isNamePart, Bool.or_eq_true, beq_iff_eq] at hpart
    rcases hpart with hpart | rfl
    · rw [if_pos hpart, id]
    · decide
  rw [columnStem, hchars, String.ofList_toList]

/-- All column names differ exactly if the stems of the types do and none is `total`. -/
theorem nodup_columnNames_iff (types : List String) :
    (types.map columnName ++ ["total_count"]).Nodup ↔
      (types.map columnStem).Nodup ∧ "total" ∉ types.map columnStem := by
  have hinjective : Function.Injective (fun stem : String => stem ++ "_count") :=
    fun a b h => (String.append_left_inj _).mp h
  have hnames : types.map columnName ++ ["total_count"] =
      (types.map columnStem ++ ["total"]).map fun stem => stem ++ "_count" := by
    have htotal : "total_count" = "total" ++ "_count" := by decide
    rw [List.map_append, List.map_map, List.map_singleton, ← htotal]
    rfl
  rw [hnames, List.nodup_map_iff hinjective, List.nodup_append_comm, List.singleton_append,
    List.nodup_cons, and_comm]

theorem columnName?_typeColumn (type : String) :
    Sql.columnName? (typeColumnTokens type) = some (columnName type) := by
  simp [Sql.columnName?, typeColumnTokens, typeInTokens, Sql.Token.word?]

theorem columnName?_totalColumn : Sql.columnName? totalColumnTokens = some "total_count" := rfl

end Counted

/-- One count for each place type is selected only if there are several of them, and
    then the columns are those of the types in order and that of all places. -/
theorem Request.selectedColumns_perType {edition : Edition} {label : String}
    {territory : Territory} (hterritory : Territory.lookup? edition label = some territory)
    {r : Request Degrees} (hr : r.scope.IsResolved)
    (hshape : (r.statement territory).shape = .perType) :
    Sql.selectedColumns (r.statement territory).tokens =
      r.selection.placeTypes.map Counted.typeColumnTokens ++ [Counted.totalColumnTokens] := by
  have hlegible := isLegible_statement hterritory hr
  have hstatement : r.statement territory = .count r.scope.preamble
      (.perType r.selection.placeTypes) (r.source territory) r.conditions := by
    rw [shape_statement] at hshape
    unfold statement
    rw [hshape]
  rw [hstatement] at hlegible ⊢
  exact Statement.selectedColumns_count hlegible

/-- The columns of a search for several place types and their names. -/
structure Request.HasTypeColumns (r : Request Degrees) (columns : List (List Sql.Token)) : Prop where
  /-- One count for each type, in the order of the selection, and the count of all places. -/
  columns_eq : columns =
    r.selection.placeTypes.map Counted.typeColumnTokens ++ [Counted.totalColumnTokens]
  names_eq : columns.map Sql.columnName? =
    (r.selection.placeTypes.map Counted.columnName ++ ["total_count"]).map some
  /-- The names differ exactly if the stems of the types do and none is `total`. -/
  nodup_iff : (columns.map Sql.columnName?).Nodup ↔
    (r.selection.placeTypes.map Counted.columnStem).Nodup ∧
      "total" ∉ r.selection.placeTypes.map Counted.columnStem
  /-- Types with plain names other than `total` have columns of their own. -/
  nodup_of_plain : r.selection.placeTypes.Nodup →
    (∀ type ∈ r.selection.placeTypes,
      (∀ c ∈ type.toList, Sql.isNamePart c = true) ∧ type ≠ "total") →
    (columns.map Sql.columnName?).Nodup

theorem Request.hasTypeColumns_of_eq {r : Request Degrees} {columns : List (List Sql.Token)}
    (h : columns =
      r.selection.placeTypes.map Counted.typeColumnTokens ++ [Counted.totalColumnTokens]) :
    r.HasTypeColumns columns := by
  have hnames : columns.map Sql.columnName? =
      (r.selection.placeTypes.map Counted.columnName ++ ["total_count"]).map some := by
    rw [h]
    simp [Counted.columnName?_typeColumn, Counted.columnName?_totalColumn]
  have hnodup : (columns.map Sql.columnName?).Nodup ↔
      (r.selection.placeTypes.map Counted.columnStem).Nodup ∧
        "total" ∉ r.selection.placeTypes.map Counted.columnStem := by
    rw [hnames, List.nodup_map_iff fun _ _ => Option.some.inj, Counted.nodup_columnNames_iff]
  refine ⟨h, hnames, hnodup, fun hdistinct hplain => hnodup.mpr ?_⟩
  have hstems : r.selection.placeTypes.map Counted.columnStem = r.selection.placeTypes := by
    conv_rhs => rw [← List.map_id r.selection.placeTypes]
    exact List.map_congr_left fun type htype => Counted.columnStem_eq_self (hplain type htype).1
  rw [hstems]
  exact ⟨hdistinct, fun hmem => (hplain "total" hmem).2 rfl⟩

/-- A search for several place types selects one count for each of them, in order, and
    then all places; the names of the columns are made from the types. -/
theorem Request.typeColumns_statement {edition : Edition} {label : String} {territory : Territory}
    (hterritory : Territory.lookup? edition label = some territory) {r : Request Degrees}
    (hr : r.scope.IsResolved) (hshape : (r.statement territory).shape = .perType) :
    ∃ ts, Sql.tokenize (r.statement territory).render = some ts ∧
      r.HasTypeColumns (Sql.selectedColumns ts) :=
  ⟨_, tokenize_statement hterritory hr,
    hasTypeColumns_of_eq (selectedColumns_perType hterritory hr hshape)⟩

/-- A route search with the place types that a form added. -/
def typedSearch (texts : List String) : Request Degrees :=
  { routeSearch "LINESTRING(13 52, 14 52)" [] with
    selection := texts.foldl Selection.addPlaceType Selection.fresh }

theorem typeColumns_typedSearch :
    let r := typedSearch [" cafe", "bar", "cafe "]
    r.selection.placeTypes = ["cafe", "bar"] ∧ (r.statement berlin).shape = .perType ∧
      ∃ ts, Sql.tokenize (r.statement berlin).render = some ts ∧
        r.HasTypeColumns (Sql.selectedColumns ts) ∧
        ((Sql.selectedColumns ts).map Sql.columnName?).Nodup := by
  intro r
  have hresolved : r.scope.IsResolved := routeSearch_isResolved _ []
  have htypes : r.selection.placeTypes = ["cafe", "bar"] := by decide
  have hshape : (r.statement berlin).shape = .perType := by
    rw [Request.shape_statement]
    decide
  obtain ⟨ts, hts, hcolumns⟩ := Request.typeColumns_statement lookup?_berlin hresolved hshape
  refine ⟨htypes, hshape, ts, hts, hcolumns, hcolumns.nodup_of_plain ?_ ?_⟩
  · simp [htypes]
  · simp [htypes, Sql.isNamePart]

/-- Distinct types need not have distinct columns: what a name may not hold becomes an
    underscore. -/
theorem not_forall_nodup_columnNames : ¬ ∀ texts : List String,
    ((typedSearch texts).statement berlin).shape = .perType →
    ∀ ts, Sql.tokenize ((typedSearch texts).statement berlin).render = some ts →
      ((Sql.selectedColumns ts).map Sql.columnName?).Nodup := by
  intro h
  let r := typedSearch ["ice cream shop", "ice_cream_shop"]
  have hresolved : r.scope.IsResolved := routeSearch_isResolved _ []
  have htypes : r.selection.placeTypes = ["ice cream shop", "ice_cream_shop"] := by decide
  have hshape : (r.statement berlin).shape = .perType := by
    rw [Request.shape_statement]
    decide
  have hcolumns := Request.hasTypeColumns_of_eq
    (Request.selectedColumns_perType lookup?_berlin hresolved hshape)
  have hnodup := h _ hshape _ (Request.tokenize_statement lookup?_berlin hresolved)
  rw [hcolumns.nodup_iff, htypes] at hnodup
  revert hnodup
  decide

end PlaceSearch
