-- SUMMARY: The scanner finds the literals of every built statement exactly where they were written.
import PlaceSearch.Proofs.Number.Notation
import PlaceSearch.Proofs.Sql.Mask
import PlaceSearch.Query.Request

/-!
# Scanning statements

Every builder of a statement writes closed fragments: code without quotation
marks, and literals that code shields from each other. Texts that are taken over
verbatim are left out, since nothing is known about them; no area of a form
leads to one.
-/

namespace PlaceSearch

open Sql (Bare Fragment)
open Sql.Fragment (code literal literals Closed Scannable)

/-! ## Bare names -/

theorem Sql.isQuote_of_isNamePart {c : Char} (h : isNamePart c = true) : isQuote c = false := by
  rw [isQuote, Bool.or_eq_false_iff, beq_eq_false_iff_ne, beq_eq_false_iff_ne]
  exact ⟨by rintro rfl; simp [isNamePart] at h, by rintro rfl; simp [isNamePart] at h⟩

theorem Sql.isNamePart_of_isNameStart {c : Char} (h : isNameStart c = true) :
    isNamePart c = true := by
  rw [isNameStart, Bool.or_eq_true] at h
  rcases h with h | h <;> simp [isNamePart, Char.isAlphanum, h]

/-- All characters of an identifier may stand in a name. -/
theorem Sql.Identifier.isNamePart_of_mem (i : Identifier) {c : Char} (h : c ∈ i.name.toList) :
    isNamePart c = true := by
  have hname := i.isName
  cases hcs : i.name.toList with
  | nil => simp [hcs] at h
  | cons d rest =>
    rw [hcs, Sql.isName, Bool.and_eq_true, List.all_eq_true] at hname
    rw [hcs] at h
    rcases List.mem_cons.mp h with rfl | h
    · exact isNamePart_of_isNameStart hname.1
    · exact hname.2 c h

@[simp] theorem Sql.Identifier.bare_name (i : Identifier) : Bare i.name :=
  fun _ hc => isQuote_of_isNamePart (i.isNamePart_of_mem hc)

@[simp] theorem Weekday.bare_name (d : Weekday) : Bare d.name := by
  cases d <;> decide

/-! ## Table names -/

/-- A character of the name of a table. -/
def isTableChar (c : Char) : Bool := c.isLower || c == '_' || c == '.'

/-- The name of a table or of a dataset. -/
def IsTableName (name : String) : Prop := ∀ c ∈ name.toList, isTableChar c = true

instance : DecidablePred IsTableName :=
  fun name => List.decidableBAll (isTableChar · = true) name.toList

namespace IsTableName

theorem append {a b : String} (ha : IsTableName a) (hb : IsTableName b) : IsTableName (a ++ b) := by
  intro c hc
  rw [String.toList_append, List.mem_append] at hc
  exact hc.elim (ha c) (hb c)

theorem notMem {name : String} (h : IsTableName name) {c : Char} (hc : isTableChar c = false) :
    c ∉ name.toList := by
  intro hmem
  rw [h c hmem] at hc
  cases hc

theorem bare {name : String} (h : IsTableName name) : Bare name := by
  intro c hc
  rw [Sql.isQuote, Bool.or_eq_false_iff, beq_eq_false_iff_ne, beq_eq_false_iff_ne]
  exact ⟨by rintro rfl; exact h.notMem (by decide) hc, by rintro rfl; exact h.notMem (by decide) hc⟩

end IsTableName

namespace Territory

/-- The country codes on offer are lower case letters. -/
theorem isTableName_country {edition : Edition} {label : String} {t : Territory}
    (h : lookup? edition label = some t) : IsTableName t.country := by
  obtain ⟨entry, hfind, rfl⟩ := Option.map_eq_some_iff.mp h
  have hmem := List.mem_of_find?_eq_some hfind
  have hall : ∀ e : Edition, ∀ entry ∈ e.territories, IsTableName entry.2 := by
    intro e
    cases e <;> decide
  exact hall edition entry hmem

theorem isTableName_functionDataset {t : Territory} (h : IsTableName t.country) :
    IsTableName t.functionDataset := by
  have hname : IsTableName ("places_insights___" ++ t.country) := .append (by decide) h
  unfold functionDataset Edition.datasetName
  cases t.edition with
  | full => exact hname
  | sample => exact hname.append (by decide)

theorem isTableName_placesTable {t : Territory} (h : IsTableName t.country) :
    IsTableName t.placesTable := by
  refine (isTableName_functionDataset h).append ?_
  cases t.edition <;> decide

theorem isTableName_brandsTable (t : Territory) : IsTableName t.brandsTable := by
  unfold brandsTable Edition.datasetName
  cases t.edition <;> decide

end Territory

/-- The tables of a source have names of tables. -/
structure Source.IsNamed (s : Source) : Prop where
  places : IsTableName s.places
  brands : ∀ table ∈ s.brands, IsTableName table

theorem Request.isNamed_source {R : Type} {edition : Edition} {label : String}
    {territory : Territory} (hterritory : Territory.lookup? edition label = some territory)
    (r : Request R) : (r.source territory).IsNamed := by
  have hcountry := Territory.isTableName_country hterritory
  refine ⟨Territory.isTableName_placesTable hcountry, fun table htable => ?_⟩
  simp only [source] at htable
  split at htable
  · obtain rfl := Option.some.inj htable
    exact territory.isTableName_brandsTable
  · cases htable

/-! ## Fragments between code -/

namespace Sql.Fragment

/-- Whatever can be scanned may stand between two pieces of code. -/
theorem Closed.enclosed {before after : String} {f : Fragment} (hbefore : Bare before)
    (hne : before ≠ "") (hf : f.Scannable) (hafter : Bare after) :
    (Fragment.code before ++ f ++ Fragment.code after).Closed :=
  (Closed.code_append hbefore hne hf).append (.code hafter)

theorem Closed.whereAll {conditions : List Fragment} (h : ∀ f ∈ conditions, f.Closed) :
    (Fragment.whereAll conditions).Closed := by
  unfold Fragment.whereAll
  split
  · exact .nil
  · exact (Closed.code (by decide)).append (.join (by decide) h)

theorem Closed.spaced {parts : List Fragment} (h : ∀ f ∈ parts, f.Closed) :
    (Fragment.spaced parts).Closed :=
  .join (by decide) fun f hf => h f (List.mem_filter.mp hf).1

end Sql.Fragment

/-! ## Conditions -/

namespace Condition

variable {R : Type} [Coordinate R]

omit [Coordinate R] in
/-- Taken over as text, whatever the text is. -/
def isVerbatim : Condition R → Bool
  | .verbatim _ => true
  | _ => false

omit [Coordinate R] in
theorem closed_typeIn (type : String) : (typeIn type).Closed :=
  (Closed.singleQuoted type).append (.code (by decide))

theorem closed_geogPoint (hrender : ∀ x : R, Bare (Coordinate.render x)) (p : Point R) :
    (geogPoint p).Closed :=
  .code (by simp [hrender]; decide)

omit [Coordinate R] in
theorem closed_renderRating (bound : RatingBound) : (renderRating bound).Closed := by
  cases bound with
  | between min max => exact .code (by simp; decide)
  | atLeast min => exact .code (by simp; decide)
  | atMost max => exact .code (by simp; decide)

theorem closed_toSql (hrender : ∀ x : R, Bare (Coordinate.render x)) {c : Condition R}
    (h : c.isVerbatim = false) : c.toSql.Closed := by
  cases c with
  | verbatim text => cases h
  | near center meters =>
    exact ((Closed.code (by decide)).append (closed_geogPoint hrender center)).append
      (.code (by simp; decide))
  | insideArea => exact .code (by decide)
  | alongRoute meters => exact .code (by simp; decide)
  | region column names =>
    have hnames := Sql.Fragment.scannable_literals .single names
    obtain ⟨field, type⟩ := column
    cases type with
    | string =>
      refine .enclosed ?_ ?_ hnames ?_
      · simp; decide
      · simp [toString]
      · decide
    | array =>
      refine .enclosed ?_ ?_ hnames ?_
      · simp; decide
      · simp [toString]
      · decide
  | primaryType types =>
    exact .enclosed (by decide) (by decide) (Sql.Fragment.scannable_literals _ _) (by decide)
  | anyType types =>
    have halternatives : (Fragment.join " OR " (types.map typeIn)).Closed := by
      refine .join (by decide) fun f hf => ?_
      obtain ⟨type, -, rfl⟩ := List.mem_map.mp hf
      exact closed_typeIn type
    unfold toSql
    dsimp only
    split
    · exact ((Closed.code (by decide)).append halternatives).append (.code (by decide))
    · exact halternatives
  | «attribute» name => exact .code (by simp; decide)
  | rating bound => exact closed_renderRating bound
  | status s => exact .code_append (by decide) (by decide) (Sql.Fragment.scannable_literal _ _)
  | brandName names =>
    exact .enclosed (by decide) (by decide) (Sql.Fragment.scannable_literals _ _) (by decide)
  | brandCategory category =>
    exact .code_append (by decide) (by decide) (Sql.Fragment.scannable_literal _ _)
  | hours start finish =>
    refine .join (by decide) fun f hf => ?_
    rcases List.mem_append.mp hf with hf | hf
    · obtain ⟨t, -, rfl⟩ := Option.map_eq_some_iff.mp (Option.mem_toList.mp hf)
      exact .code_append (by decide) (by decide) (Sql.Fragment.scannable_literal _ _)
    · obtain ⟨t, -, rfl⟩ := Option.map_eq_some_iff.mp (Option.mem_toList.mp hf)
      exact .code_append (by decide) (by decide) (Sql.Fragment.scannable_literal _ _)

end Condition

/-- The conditions of a selection are written by its own builders. -/
theorem Selection.isVerbatim_of_mem_conditions {R : Type} {s : Selection} {c : Condition R}
    (h : c ∈ s.conditions) : c.isVerbatim = false := by
  simp only [Selection.conditions, List.mem_append, Option.mem_toList, Option.map_eq_some_iff,
    Option.bind_eq_some_iff, List.mem_map] at h
  rcases h with (((((h | ⟨_, -, rfl⟩) | ⟨_, -, rfl⟩) | ⟨_, -, rfl⟩) | h) | ⟨_, -, h⟩) | ⟨_, -, rfl⟩
  · unfold Condition.ofPlaceTypes? at h
    split at h
    · cases h
    · obtain rfl := Option.some.inj h
      split <;> rfl
  · rfl
  · rfl
  · rfl
  · unfold Condition.ofBrandNames? at h
    split at h
    · cases h
    · obtain rfl := Option.some.inj h
      rfl
  · unfold Condition.ofBrandCategory? at h
    split at h
    · cases h
    · obtain rfl := Option.some.inj h
      rfl
  · rfl

/-! ## Statements -/

theorem closed_hoursSource (day : Weekday) : (hoursSource day).Closed :=
  .code (by simp; decide)

namespace FunctionSelection

theorem closed_entry (key : String) {value : Fragment} (h : value.Closed) :
    (entry key value).Closed :=
  ((Closed.singleQuoted key).append (.code (by decide))).append h

theorem closed_bracketed {items : Fragment} (h : items.Scannable) : (bracketed items).Closed :=
  .enclosed (by decide) (by decide) h (by decide)

/-- What holds of an entry of every kind holds of all entries. -/
theorem forall_mem_entries {s : FunctionSelection} {P : Fragment → Prop}
    (hstatus : ∀ key text, P (entry key (bracketed (literal .single text))))
    (htypes : ∀ key texts, P (entry key (bracketed (literals .double texts))))
    (hrating : ∀ key x, P (entry key (code (plainNumber x))))
    (hattribute : ∀ key, P (entry key (code "TRUE"))) {f : Fragment} (h : f ∈ s.entries) : P f := by
  simp only [entries, List.mem_append, Option.mem_toList, Option.map_eq_some_iff,
    List.mem_map] at h
  rcases h with (((⟨_, -, rfl⟩ | h) | ⟨_, -, rfl⟩) | ⟨_, -, rfl⟩) | ⟨_, -, rfl⟩
  · exact hstatus _ _
  · split at h
    · cases h
    · obtain rfl := List.mem_singleton.mp h
      exact htypes _ _
  · exact hrating _ _
  · exact hrating _ _
  · exact hattribute _

theorem closed_of_mem_entries {s : FunctionSelection} {f : Fragment} (h : f ∈ s.entries) :
    f.Closed := by
  refine forall_mem_entries (fun key text => ?_) (fun key texts => ?_) (fun key x => ?_)
    (fun key => ?_) h
  · exact closed_entry key (closed_bracketed (Sql.Fragment.scannable_literal _ _))
  · exact closed_entry key (closed_bracketed (Sql.Fragment.scannable_literals _ _))
  · exact closed_entry key (.code (by simp))
  · exact closed_entry key (.code (by decide))

end FunctionSelection

namespace Preamble

/-- Taken over as text, whatever the text is. -/
def isVerbatim : Preamble → Bool
  | .verbatim _ => true
  | _ => false

theorem closed_declare {name : String} (h : Bare name) (wkt : String) :
    (declare name wkt).Closed := by
  refine .enclosed ?_ ?_ (Sql.Fragment.scannable_literal _ _) ?_
  · simp [h]; decide
  · simp [toString]
  · decide

theorem closed_toSql {p : Preamble} (h : p.isVerbatim = false) : p.toSql.Closed := by
  cases p with
  | verbatim text => cases h
  | searchArea wkt => exact closed_declare (by decide) wkt
  | route wkt => exact closed_declare (by decide) wkt

end Preamble

/-- The tables of a source are bare names. -/
structure Source.IsBare (s : Source) : Prop where
  places : Bare s.places
  brands : ∀ table ∈ s.brands, Bare table

theorem Source.IsNamed.isBare {s : Source} (h : s.IsNamed) : s.IsBare :=
  ⟨h.places.bare, fun table htable => (h.brands table htable).bare⟩

theorem Source.closed_toSql {s : Source} (h : s.IsBare) : s.toSql.Closed := by
  refine ((Closed.code ?_).append ?_).append ?_
  · simp [h.places]; decide
  · cases s.hoursOn with
    | none => exact .nil
    | some day => exact closed_hoursSource day
  · cases hbrands : s.brands with
    | none => exact .nil
    | some table =>
      refine .code ?_
      simp [h.brands table hbrands]
      decide

namespace Counted

/-- The characters of a column name are those of a plain name. -/
theorem isNamePart_of_mem_columnStem {type : String} {c : Char}
    (h : c ∈ (columnStem type).toList) : Sql.isNamePart c = true := by
  rw [columnStem, String.toList_ofList] at h
  obtain ⟨d, -, rfl⟩ := List.mem_map.mp h
  split
  · next hd => simp [Sql.isNamePart, hd]
  · decide

theorem bare_columnStem (type : String) : Bare (columnStem type) :=
  fun _ hc => Sql.isQuote_of_isNamePart (isNamePart_of_mem_columnStem hc)

theorem closed_typeColumn (type : String) : (typeColumn type).Closed := by
  refine ((Closed.code (by decide)).append (Condition.closed_typeIn type)).append (.code ?_)
  simp [bare_columnStem]
  decide

/-- The grouping column, if there is one, is a bare name. -/
def IsBare : Counted → Prop
  | .perRegion field => Bare field
  | _ => True

theorem closed_columns {counted : Counted} (h : counted.IsBare) : counted.columns.Closed := by
  cases counted with
  | total => exact .code (by decide)
  | perType types =>
    refine Closed.append (.join (by decide) fun f hf => ?_) (.code (by decide))
    obtain ⟨type, -, rfl⟩ := List.mem_map.mp hf
    exact closed_typeColumn type
  | perBrand => exact .code (by decide)
  | perRegion field =>
    have hfield : Bare field := h
    refine .code ?_
    simp [hfield]
    decide

theorem closed_grouping (counted : Counted) : counted.grouping.Closed := by
  cases counted with
  | total => exact .nil
  | perType types => exact .nil
  | perBrand => exact .code (by decide)
  | perRegion field => exact .code (by decide)

end Counted

namespace Statement

variable {R : Type} [Coordinate R]

theorem closed_whereClause (hrender : ∀ x : R, Bare (Coordinate.render x))
    {conditions : List (Condition R)} (h : ∀ c ∈ conditions, c.isVerbatim = false) :
    (whereClause conditions).Closed := by
  refine .whereAll fun f hf => ?_
  obtain ⟨c, hc, rfl⟩ := List.mem_map.mp hf
  exact Condition.closed_toSql hrender (h c hc)

theorem closed_of_mem_cellLines (hrender : ∀ x : R, Bare (Coordinate.render x))
    {resolution : Nat} {source : Source} {conditions : List (Condition R)} (hs : source.IsBare)
    (h : ∀ c ∈ conditions, c.isVerbatim = false) :
    ∀ f ∈ cellLines resolution source conditions, f.Closed := by
  intro f hf
  rcases List.mem_append.mp hf with hf | hf
  · rcases List.mem_append.mp hf with hf | hf
    · simp only [List.mem_cons, List.not_mem_nil, or_false] at hf
      rcases hf with rfl | rfl | rfl | rfl
      · exact .code (by decide)
      · refine .code ?_
        simp
        decide
      · exact .code (by decide)
      · exact (Closed.code (by decide)).append (Source.closed_toSql hs)
    · split at hf
      · cases hf
      · obtain rfl := List.mem_singleton.mp hf
        exact (Closed.code (by decide)).append (closed_whereClause hrender h)
  · obtain rfl := List.mem_singleton.mp hf
    exact .code (by decide)

theorem closed_of_mem_functionEntries (hrender : ∀ x : R, Bare (Coordinate.render x))
    {center : Point R} {meters resolution : Nat} {filters : FunctionSelection} :
    ∀ f ∈ functionEntries center meters resolution filters, f.Closed := by
  intro f hf
  rcases List.mem_append.mp hf with hf | hf
  · simp only [List.mem_cons, List.not_mem_nil, or_false] at hf
    rcases hf with rfl | rfl | rfl
    · exact FunctionSelection.closed_entry _ (Condition.closed_geogPoint hrender center)
    · exact FunctionSelection.closed_entry _ (.code (by simp))
    · exact FunctionSelection.closed_entry _ (.code (by simp))
  · exact FunctionSelection.closed_of_mem_entries hf

/-- Nothing in the statement is taken over as text, and its tables and columns
    are bare names. -/
def IsBuilt : Statement R → Prop
  | .count preamble counted source conditions =>
    (∀ p ∈ preamble, p.isVerbatim = false) ∧ counted.IsBare ∧ source.IsBare ∧
      ∀ c ∈ conditions, c.isVerbatim = false
  | .cells preamble _ source conditions =>
    (∀ p ∈ preamble, p.isVerbatim = false) ∧ source.IsBare ∧
      ∀ c ∈ conditions, c.isVerbatim = false
  | .function dataset .. => Bare dataset

/-- A built statement is a closed fragment. -/
theorem closed_toSql (hrender : ∀ x : R, Bare (Coordinate.render x)) {s : Statement R}
    (h : s.IsBuilt) : s.toSql.Closed := by
  cases s with
  | count preamble counted source conditions =>
    obtain ⟨hpreamble, hcounted, hsource, hconditions⟩ := h
    refine .spaced fun f hf => ?_
    simp only [List.mem_cons, List.not_mem_nil, or_false] at hf
    rcases hf with rfl | rfl | rfl | rfl | rfl
    · cases preamble with
      | none => exact .nil
      | some p => exact Preamble.closed_toSql (hpreamble p rfl)
    · refine Closed.append (.code ?_) (Counted.closed_columns hcounted)
      simp
      decide
    · exact Source.closed_toSql hsource
    · exact closed_whereClause hrender hconditions
    · exact Counted.closed_grouping counted
  | cells preamble resolution source conditions =>
    obtain ⟨hpreamble, hsource, hconditions⟩ := h
    refine Closed.append (Closed.append (Closed.append ?_ (.code (by decide))) ?_)
      (.code (by decide))
    · cases preamble with
      | none => exact .nil
      | some p => exact (Preamble.closed_toSql (hpreamble p rfl)).append (.code (by decide))
    · exact .join (by decide) (closed_of_mem_cellLines hrender hsource hconditions)
  | function dataset center meters resolution filters =>
    have hdataset : Bare dataset := h
    refine Closed.append (Closed.append (.code ?_) ?_) (.code (by decide))
    · simp [hdataset]
      decide
    · exact .join (by decide) (closed_of_mem_functionEntries hrender)

/-- The scanner finds the literals of a built statement where they were written
    and ends outside them. -/
theorem mask_render (hrender : ∀ x : R, Bare (Coordinate.render x)) {s : Statement R}
    (h : s.IsBuilt) : Sql.mask s.render = some s.toSql.marks :=
  Sql.Fragment.mask_render (closed_toSql hrender h).scannable

end Statement

end PlaceSearch
