-- SUMMARY: Counts and cells of one request search the same places, and only counts carry the privacy qualifier.
import PlaceSearch.Proofs.Query.Clauses
import PlaceSearch.Proofs.Sql.Grouping
import PlaceSearch.Proofs.Sql.Seam

/-!
# Views of a request

A request can be asked for counts or for cells. Both statements declare the same,
look in the same source and have the same conditions. A statement that counts has
the privacy qualifier right behind its first `SELECT` and nowhere else; cells and
function calls do not have it. Every part that a statement is written from is
calm, whatever names and literals it holds.
-/

namespace PlaceSearch

open Sql (Mark Fragment Calm Settled Balanced StandsOnlyBehind qualifier)
open Sql.Fragment (marks code literal literals)
open Sql.Token (word)

/-! ## Calm code -/

namespace Sql

theorem Calm.text_append {a b : String} (ha : Calm (Mark.ofString a))
    (hb : Calm (Mark.ofString b)) : Calm (Mark.ofString (a ++ b)) := by
  rw [Mark.ofString, String.toList_append, List.map_append]
  exact ha.append hb

/-- Any plain name may stand behind a settled text. -/
theorem Calm.text_append_name {a name : String} (ha : Settled (Mark.ofString a))
    (h : ∀ c ∈ name.toList, isNamePart c = true) : Calm (Mark.ofString (a ++ name)) := by
  rw [Mark.ofString, String.toList_append, List.map_append]
  refine Calm.append_name ha fun hmem => ?_
  obtain ⟨c, hc, heq⟩ := List.mem_map.mp hmem
  obtain rfl : c = ' ' := Mark.char.inj heq
  exact absurd (h _ hc) (by decide)

theorem Calm.of_forall_mem {p : Char → Bool} (hp : p 'A' = false) {text : String}
    (h : ∀ c ∈ text.toList, p c = true) : Calm (Mark.ofString text) := by
  refine .of_notMem fun hmem => ?_
  obtain ⟨c, hc, heq⟩ := List.mem_map.mp hmem
  obtain rfl : c = 'A' := Mark.char.inj heq
  rw [h _ hc] at hp
  cases hp

namespace Fragment

/-- No seam of the qualifier is in the fragment or begins in it. -/
def IsCalm (f : Fragment) : Prop := Calm f.marks

namespace IsCalm

theorem nil : IsCalm [] := Calm.nil

theorem append {f g : Fragment} (hf : f.IsCalm) (hg : g.IsCalm) : (f ++ g).IsCalm := by
  rw [IsCalm, marks_append]
  exact Calm.append hf hg

theorem code {text : String} (h : Calm (Mark.ofString text)) : (Fragment.code text).IsCalm := by
  rwa [IsCalm, marks_code]

theorem spelled {cs : List Char} (h : Calm (cs.map .char)) :
    (Fragment.code (String.ofList cs)).IsCalm :=
  .code (.spelled h)

/-- No text of a literal is seen. -/
theorem literal (q : Quote) (text : String) : (Fragment.literal q text).IsCalm :=
  Calm.of_notMem (by simp)

theorem join {separator : String} {parts : List Fragment} (hsep : Calm (Mark.ofString separator))
    (h : ∀ f ∈ parts, f.IsCalm) : (Fragment.join separator parts).IsCalm := by
  rw [IsCalm, marks_join]
  refine hsep.intercalate fun ms hms => ?_
  obtain ⟨f, hf, rfl⟩ := List.mem_map.mp hms
  exact h f hf

theorem literals (q : Quote) (texts : List String) : (Fragment.literals q texts).IsCalm := by
  refine .join (by decide) fun f hf => ?_
  obtain ⟨text, -, rfl⟩ := List.mem_map.mp hf
  exact .literal q text

end IsCalm

end Fragment

end Sql

theorem calm_natRepr (n : Nat) : Calm (Mark.ofString n.repr) :=
  .of_forall_mem (by decide) fun _ hc => Sql.isDigit_of_mem_natRepr hc

theorem IsNumberText.calm {text : String} (h : IsNumberText text) : Calm (Mark.ofString text) := by
  rcases h with h | h
  · exact .of_forall_mem (by decide) h
  · simp only [List.mem_cons, List.not_mem_nil, or_false] at h
    rcases h with rfl | rfl | rfl <;> decide

theorem calm_plainNumber (x : Float) : Calm (Mark.ofString (plainNumber x)) :=
  (isNumberText_plainNumber x).calm

theorem IsTableName.calm {name : String} (h : IsTableName name) : Calm (Mark.ofString name) :=
  .of_forall_mem (by decide) h

theorem Weekday.calm_name (d : Weekday) : Calm (Mark.ofString d.name) := by
  cases d <;> decide

/-! ## Calm parts -/

namespace Condition

variable {R : Type} [Coordinate R]

omit [Coordinate R] in
theorem isCalm_typeIn (type : String) : (typeIn type).IsCalm :=
  (Fragment.IsCalm.literal .single type).append (.spelled (by decide))

theorem isCalm_geogPoint (hrender : ∀ x : R, IsNumberText (Coordinate.render x))
    (p : Point R) : (geogPoint p).IsCalm :=
  .code ((((Calm.text_append (.spelled (by decide)) (hrender p.lng).calm).text_append
    (.spelled (by decide))).text_append (hrender p.lat).calm).text_append (.spelled (by decide)))

omit [Coordinate R] in
theorem isCalm_renderRating (bound : RatingBound) : (renderRating bound).IsCalm := by
  cases bound with
  | between min max =>
    exact .code (((Calm.text_append (.spelled (by decide)) (calm_plainNumber min)).text_append
      (.spelled (by decide))).text_append (calm_plainNumber max))
  | atLeast min => exact .code (.text_append (.spelled (by decide)) (calm_plainNumber min))
  | atMost max => exact .code (.text_append (.spelled (by decide)) (calm_plainNumber max))

/-- Whatever a condition says, it does not say the qualifier. -/
theorem isCalm_toSql (hrender : ∀ x : R, IsNumberText (Coordinate.render x))
    {c : Condition R} (h : c.isVerbatim = false) : c.toSql.IsCalm := by
  cases c with
  | verbatim text => cases h
  | near center meters =>
    exact ((Fragment.IsCalm.spelled (by decide)).append (isCalm_geogPoint hrender center)).append
      (.code ((Calm.text_append (.spelled (by decide)) (calm_natRepr meters)).text_append
        (.spelled (by decide))))
  | insideArea => exact .spelled (by decide)
  | alongRoute meters =>
    exact .code ((Calm.text_append (.spelled (by decide)) (calm_natRepr meters)).text_append
      (.spelled (by decide)))
  | region column names =>
    have hnames := Fragment.IsCalm.literals .single names
    obtain ⟨field, type⟩ := column
    have hfield : ∀ c ∈ field.name.toList, Sql.isNamePart c = true :=
      fun _ hc => field.isNamePart_of_mem hc
    cases type with
    | string =>
      have hfront : Calm (Mark.ofString ("places." ++ field.name ++ " IN (")) :=
        (Calm.text_append_name (.spelled (by decide)) hfield).text_append (.spelled (by decide))
      exact ((Fragment.IsCalm.code hfront).append hnames).append (.spelled (by decide))
    | array =>
      have hfront : Calm (Mark.ofString ("EXISTS (SELECT 1 FROM UNNEST(places." ++ field.name ++
          ") AS name WHERE name IN (")) :=
        (Calm.text_append_name (.spelled (by decide)) hfield).text_append (.spelled (by decide))
      exact ((Fragment.IsCalm.code hfront).append hnames).append (.spelled (by decide))
  | primaryType types =>
    exact ((Fragment.IsCalm.spelled (by decide)).append (.literals _ _)).append
      (.spelled (by decide))
  | anyType types =>
    have halternatives : (Fragment.join " OR " (types.map typeIn)).IsCalm := by
      refine .join (.spelled (by decide)) fun f hf => ?_
      obtain ⟨type, -, rfl⟩ := List.mem_map.mp hf
      exact isCalm_typeIn type
    unfold toSql
    dsimp only
    split
    · exact ((Fragment.IsCalm.spelled (by decide)).append halternatives).append
        (.spelled (by decide))
    · exact halternatives
  | «attribute» name =>
    exact .code ((Calm.text_append_name (.spelled (by decide)) fun _ hc =>
      name.isNamePart_of_mem hc).text_append (.spelled (by decide)))
  | rating bound => exact isCalm_renderRating bound
  | status s => exact (Fragment.IsCalm.spelled (by decide)).append (.literal _ _)
  | brandName names =>
    exact ((Fragment.IsCalm.spelled (by decide)).append (.literals _ _)).append
      (.spelled (by decide))
  | brandCategory category =>
    exact (Fragment.IsCalm.spelled (by decide)).append (.literal _ _)
  | hours start finish =>
    refine .join (.spelled (by decide)) fun f hf => ?_
    rcases List.mem_append.mp hf with hf | hf
    · obtain ⟨t, -, rfl⟩ := Option.map_eq_some_iff.mp (Option.mem_toList.mp hf)
      exact (Fragment.IsCalm.spelled (by decide)).append (.literal _ _)
    · obtain ⟨t, -, rfl⟩ := Option.map_eq_some_iff.mp (Option.mem_toList.mp hf)
      exact (Fragment.IsCalm.spelled (by decide)).append (.literal _ _)

end Condition

theorem isCalm_hoursSource (day : Weekday) : (hoursSource day).IsCalm :=
  .code ((Calm.text_append (.spelled (by decide)) day.calm_name).text_append (.spelled (by decide)))

theorem Source.isCalm_toSql {s : Source} (h : s.IsNamed) : s.toSql.IsCalm := by
  refine ((Fragment.IsCalm.code ?_).append ?_).append ?_
  · exact (Calm.text_append (.spelled (by decide)) h.places.calm).text_append (.spelled (by decide))
  · cases s.hoursOn with
    | none => exact .nil
    | some day => exact isCalm_hoursSource day
  · cases hbrands : s.brands with
    | none => exact .nil
    | some table =>
      have htable : Calm (Mark.ofString
          ("LEFT JOIN `" ++ table ++ "` brands ON brand_id = brands.id")) :=
        (Calm.text_append (.spelled (by decide)) (h.brands table hbrands).calm).text_append
          (.spelled (by decide))
      exact .code (.text_append (.spelled (by decide)) htable)

namespace FunctionSelection

theorem isCalm_entry (key : String) {value : Fragment} (h : value.IsCalm) :
    (entry key value).IsCalm :=
  ((Fragment.IsCalm.literal .single key).append (.spelled (by decide))).append h

theorem isCalm_bracketed {items : Fragment} (h : items.IsCalm) : (bracketed items).IsCalm :=
  ((Fragment.IsCalm.spelled (by decide)).append h).append (.spelled (by decide))

theorem isCalm_of_mem_entries {s : FunctionSelection} {f : Fragment} (h : f ∈ s.entries) :
    f.IsCalm := by
  refine forall_mem_entries (fun key text => ?_) (fun key texts => ?_) (fun key x => ?_)
    (fun key => ?_) h
  · exact isCalm_entry key (isCalm_bracketed (.literal _ _))
  · exact isCalm_entry key (isCalm_bracketed (.literals _ _))
  · exact isCalm_entry key (.code (calm_plainNumber _))
  · exact isCalm_entry key (.spelled (by decide))

end FunctionSelection

theorem Preamble.isCalm_toSql {p : Preamble} (h : p.isVerbatim = false) : p.toSql.IsCalm := by
  have hdeclare {name : String} (hname : Calm (Mark.ofString name)) (wkt : String) :
      (declare name wkt).IsCalm := by
    have hset : Calm (Mark.ofString ("DECLARE " ++ name ++ " GEOGRAPHY; SET " ++ name)) :=
      ((Calm.text_append (.spelled (by decide)) hname).text_append
        (.spelled (by decide))).text_append hname
    exact ((Fragment.IsCalm.code (hset.text_append (.spelled (by decide)))).append
      (.literal _ _)).append (.spelled (by decide))
  cases p with
  | verbatim text => cases h
  | searchArea wkt => exact hdeclare (.spelled (by decide)) wkt
  | route wkt => exact hdeclare (.spelled (by decide)) wkt

namespace Counted

theorem isCalm_typeColumn (type : String) : (typeColumn type).IsCalm := by
  have hstem : ∀ c ∈ (columnStem type).toList, Sql.isNamePart c = true :=
    fun _ hc => isNamePart_of_mem_columnStem hc
  exact ((Fragment.IsCalm.spelled (by decide)).append (Condition.isCalm_typeIn type)).append
    (.code ((Calm.text_append_name (.spelled (by decide)) hstem).text_append
      (.spelled (by decide))))

theorem isCalm_columns {counted : Counted} (h : counted.IsLegible) : counted.columns.IsCalm := by
  cases counted with
  | total => exact .spelled (by decide)
  | perType types =>
    refine Fragment.IsCalm.append (.join (.spelled (by decide)) fun f hf => ?_)
      (.spelled (by decide))
    obtain ⟨type, -, rfl⟩ := List.mem_map.mp hf
    exact isCalm_typeColumn type
  | perBrand => exact .spelled (by decide)
  | perRegion field =>
    exact .code ((Calm.text_append_name (.spelled (by decide)) h).text_append
      (.spelled (by decide)))

theorem isCalm_grouping (counted : Counted) : counted.grouping.IsCalm := by
  cases counted with
  | total => exact .nil
  | perType types => exact .nil
  | perBrand => exact .spelled (by decide)
  | perRegion field => exact .spelled (by decide)

end Counted

/-! ## Statements that count, and the others -/

namespace Sql

/-- The text has the privacy qualifier right behind its first `SELECT`, which is
    outside parentheses, and nowhere else outside its literals. -/
structure IsQualifiedOnce (text : String) : Prop where
  words : ∃ ts, tokenize text = some ts ∧
    preamblePart ts ++ [word "SELECT", word "WITH", word "AGGREGATION_THRESHOLD"] <+: ts
  marks : ∃ ms front, mask text = some ms ∧
    StandsOnlyBehind qualifier (front ++ Mark.ofString "SELECT ") ms ∧
    Balanced front ∧ ¬ Mark.ofString "SELECT" <:+: front

/-- The text has the privacy qualifier nowhere outside its literals. -/
def IsUnqualified (text : String) : Prop := ∃ ms, mask text = some ms ∧ ¬ qualifier <:+: ms

end Sql

namespace Statement

variable {R : Type} [Coordinate R]

/-- Both statements declare the same, look in the same source and have the same
    clause of conditions: a reader finds the same words and literals, and source
    and clause are the same texts. -/
structure SameSearch (s s' : Statement R) : Prop where
  parts : ∃ ts us, Sql.tokenize s.render = some ts ∧ Sql.tokenize s'.render = some us ∧
    Sql.preamblePart ts = Sql.preamblePart us ∧ Sql.fromPart ts = Sql.fromPart us ∧
    Sql.wherePart ts = Sql.wherePart us
  texts : ∃ source clause, s.HasWhere source clause ∧ s'.HasWhere source clause

theorem isCalm_whereClause (hrender : ∀ x : R, IsNumberText (Coordinate.render x))
    {conditions : List (Condition R)} (h : ∀ c ∈ conditions, c.isVerbatim = false) :
    (whereClause conditions).IsCalm := by
  unfold whereClause Fragment.whereAll
  split
  · exact .nil
  · refine (Fragment.IsCalm.spelled (by decide)).append
      (.join (.spelled (by decide)) fun f hf => ?_)
    obtain ⟨c, hc, rfl⟩ := List.mem_map.mp hf
    exact Condition.isCalm_toSql hrender (h c hc)

/-- What stands in front of the first `SELECT` of a counting statement. -/
def beforeSelect (preamble : Option Preamble) : List Mark :=
  let declared := marks ((preamble.map Preamble.toSql).getD [])
  if declared.isEmpty then [] else declared ++ Mark.ofString " "

theorem calm_beforeSelect {preamble : Option Preamble}
    (h : ∀ p ∈ preamble, p.isVerbatim = false) : Calm (beforeSelect preamble) := by
  unfold beforeSelect
  dsimp only
  split
  · exact .nil
  · refine Calm.append ?_ (by decide)
    cases preamble with
    | none => exact .nil
    | some p => exact Preamble.isCalm_toSql (h p rfl)

/-- The first `SELECT` is in no parentheses. -/
theorem balanced_beforeSelect {preamble : Option Preamble}
    (h : ∀ p ∈ preamble, p.isVerbatim = false) :
    Balanced (beforeSelect preamble) ∧ ¬ Mark.ofString "SELECT" <:+: beforeSelect preamble := by
  cases preamble with
  | none => exact ⟨.nil, by decide⟩
  | some p =>
    -- The geometry is a literal, so any other one leaves the same marks.
    cases p with
    | verbatim text => cases h _ rfl
    | searchArea wkt =>
      have heq : beforeSelect (some (.searchArea wkt)) = beforeSelect (some (.searchArea "")) := rfl
      rw [heq]
      exact ⟨by decide +kernel, by decide +kernel⟩
    | route wkt =>
      have heq : beforeSelect (some (.route wkt)) = beforeSelect (some (.route "")) := rfl
      rw [heq]
      exact ⟨by decide +kernel, by decide +kernel⟩

theorem calm_behindColumns (hrender : ∀ x : R, IsNumberText (Coordinate.render x))
    {source : Source} {conditions : List (Condition R)} (counted : Counted)
    (hsource : source.IsNamed) (h : ∀ c ∈ conditions, c.isVerbatim = false) :
    Calm (behindColumns source conditions counted.grouping) := by
  have hparts : ∀ f ∈ [source.toSql, whereClause conditions, counted.grouping], f.IsCalm := by
    simpa using ⟨Source.isCalm_toSql hsource, isCalm_whereClause hrender h, counted.isCalm_grouping⟩
  refine .flatMap fun ms hms => Calm.append (by decide) ?_
  obtain ⟨f, hf, rfl⟩ := List.mem_map.mp (List.mem_filter.mp hms).1
  exact hparts f hf

/-- A counting statement is calm on both sides of its qualifier. -/
theorem isQualifiedOnce_count (hrender : ∀ x : R, IsNumberText (Coordinate.render x))
    {preamble : Option Preamble} {counted : Counted} {source : Source}
    {conditions : List (Condition R)} (h : (count preamble counted source conditions).IsLegible) :
    Sql.IsQualifiedOnce (count preamble counted source conditions).render := by
  obtain ⟨hpreamble, hcounted, hsource, hconditions⟩ := id h
  have hfront : Calm (beforeSelect preamble ++ Mark.ofString "SELECT ") :=
    (calm_beforeSelect hpreamble).append (by decide)
  have hback : Calm (Mark.ofString " " ++ marks counted.columns ++
      behindColumns source conditions counted.grouping) :=
    (Calm.append (by decide) (Counted.isCalm_columns hcounted)).append
      (calm_behindColumns hrender counted hsource hconditions)
  have hmarks : marks (count preamble counted source conditions).toSql =
      (beforeSelect preamble ++ Mark.ofString "SELECT ") ++ (qualifier ++ (Mark.ofString " " ++
        marks counted.columns ++ behindColumns source conditions counted.grouping)) := by
    have hselect : Mark.ofString s!"SELECT {privacyQualifier} " =
        Mark.ofString "SELECT " ++ (qualifier ++ Mark.ofString " ") := by
      simp [Mark.ofString, qualifier, toString]
    rw [marks_count, beforeColumns, ← beforeSelect, hselect]
    simp only [List.append_assoc]
  constructor
  · refine ⟨_, tokenize_render hrender h, ?_⟩
    rw [(hasClauses_count hrender h).preamblePart_eq]
    simp [tokens, selectTokens]
  · have hmask := mask_render (fun x => (hrender x).bare) h.isBuilt
    refine ⟨_, beforeSelect preamble, hmask, ?_, balanced_beforeSelect hpreamble⟩
    rw [hmarks]
    exact hfront.standsOnlyBehind hback

theorem isCalm_cells (hrender : ∀ x : R, IsNumberText (Coordinate.render x))
    {preamble : Option Preamble} {resolution : Nat} {source : Source}
    {conditions : List (Condition R)}
    (h : (cells preamble resolution source conditions).IsLegible) :
    (cells preamble resolution source conditions).toSql.IsCalm := by
  obtain ⟨hpreamble, hsource, hconditions⟩ := h
  have hdeclared : ((preamble.map fun p => p.toSql ++ code "\n").getD []).IsCalm := by
    cases preamble with
    | none => exact .nil
    | some p => exact (Preamble.isCalm_toSql (hpreamble p rfl)).append (.code (by decide))
  have hline (text : String) (h : Calm (Mark.ofString text)) : (code text ++ code "\n").IsCalm :=
    (Fragment.IsCalm.code h).append (.code (by decide))
  have hlead : (cellLead preamble resolution).IsCalm := by
    have houter : Calm (Mark.ofString
        ("SELECT\n  ARRAY_AGG(h3_index) AS indices,\n  ARRAY_AGG(place_count) AS counts\n" ++
          "FROM (\n  ")) := .text_append (.spelled (by decide)) (.spelled (by decide))
    have hopen : Calm (Mark.ofString ("    " ++ cellOfPoint ++ "(places.point, ")) :=
      (Calm.text_append (.spelled (by decide)) (.spelled (by decide))).text_append
        (.spelled (by decide))
    have hcell : Calm (Mark.ofString
        s!"    {cellOfPoint}(places.point, {resolution}) AS h3_index,") :=
      (Calm.text_append hopen (calm_natRepr resolution)).text_append (.spelled (by decide))
    exact ((((hdeclared.append (.code houter)).append (hline _ (by decide))).append
      (hline _ hcell)).append (hline _ (.spelled (by decide)))).append (.code (by decide))
  have hgap : (if (whereClause conditions).render = "" then []
      else code "\n" ++ code "  " : Fragment).IsCalm := by
    split
    · exact .nil
    · exact (Fragment.IsCalm.code (by decide)).append (.code (by decide))
  have hback : cellBack.IsCalm :=
    ((Fragment.IsCalm.code (by decide)).append (.spelled (by decide))).append
      (.spelled (by decide))
  rw [toSql_cells_eq]
  exact (((hlead.append (Source.isCalm_toSql hsource)).append hgap).append
    (isCalm_whereClause hrender hconditions)).append hback

theorem isCalm_function (hrender : ∀ x : R, IsNumberText (Coordinate.render x))
    {dataset : String} (h : IsTableName dataset) {center : Point R}
    {meters resolution : Nat} {filters : FunctionSelection} :
    (function dataset center meters resolution filters).toSql.IsCalm := by
  have hname : Calm (Mark.ofString ("SELECT * FROM `" ++ dataset ++ "." ++ densityFunction)) :=
    ((Calm.text_append (.spelled (by decide)) h.calm).text_append
      (.spelled (by decide))).text_append (.spelled (by decide))
  have hfront := hname.text_append
    (.spelled (by decide) : Calm (Mark.ofString "`(\n  JSON_OBJECT(\n    "))
  have hentries : ∀ f ∈ functionEntries center meters resolution filters, f.IsCalm := by
    have hpoint := FunctionSelection.isCalm_entry "geography"
      (Condition.isCalm_geogPoint hrender center)
    have hnumber (key : String) (n : Nat) :=
      FunctionSelection.isCalm_entry key (.code (calm_natRepr n))
    refine List.forall_mem_append.mpr ⟨?_, fun f hf => FunctionSelection.isCalm_of_mem_entries hf⟩
    exact List.forall_mem_cons.mpr ⟨hpoint, List.forall_mem_cons.mpr ⟨hnumber _ meters,
      List.forall_mem_singleton.mpr (hnumber _ resolution)⟩⟩
  exact ((Fragment.IsCalm.code hfront).append (.join (by decide) hentries)).append
    (.code (by decide))

/-- Calm statements do not have the qualifier. -/
theorem isUnqualified (hrender : ∀ x : R, IsNumberText (Coordinate.render x)) {s : Statement R}
    (h : s.IsLegible) (hcalm : s.toSql.IsCalm) : Sql.IsUnqualified s.render :=
  ⟨_, mask_render (fun x => (hrender x).bare) h.isBuilt, Calm.not_infix hcalm⟩

end Statement

/-! ## Views -/

/-- Cells are asked for exactly where no table of counts is the answer. -/
theorem Features.cells_eq (f : Features) : f.cells = !f.shape.isCount := by
  unfold shape
  repeat' split
  all_goals simp_all [Shape.isCount]

/-- The statement of a request for counts has the qualifier once; that of a request for
    cells, which may be a function call, does not have it. -/
theorem Request.qualified_statement {edition : Edition} {label : String} {territory : Territory}
    (hterritory : Territory.lookup? edition label = some territory) {r : Request Degrees}
    (hr : r.scope.IsResolved) :
    if r.cells then Sql.IsUnqualified (r.statement territory).render
    else Sql.IsQualifiedOnce (r.statement territory).render := by
  have hrender : ∀ x : Degrees, IsNumberText (Coordinate.render x) :=
    fun x => isNumberText_plainNumber x.value
  have hlegible := isLegible_statement hterritory hr
  have hcells : r.cells = !r.features.shape.isCount := r.features.cells_eq
  rw [hcells]
  unfold statement at hlegible ⊢
  cases hshape : r.features.shape <;> rw [hshape] at hlegible
  case function =>
    exact Statement.isUnqualified hrender hlegible (Statement.isCalm_function hrender hlegible)
  case cells =>
    exact Statement.isUnqualified hrender hlegible (Statement.isCalm_cells hrender hlegible)
  all_goals exact Statement.isQualifiedOnce_count hrender hlegible

/-- Requests that differ in nothing but the form of the answer search the same places,
    unless one of them is a function call. -/
theorem Request.sameSearch {edition : Edition} {label : String} {territory : Territory}
    (hterritory : Territory.lookup? edition label = some territory) {r r' : Request Degrees}
    (hscope : r'.scope = r.scope) (hselection : r'.selection = r.selection)
    (hr : r.scope.IsResolved) (hshape : r.features.shape ≠ .function)
    (hshape' : r'.features.shape ≠ .function) :
    (r.statement territory).SameSearch (r'.statement territory) := by
  have hr' : r'.scope.IsResolved := by rwa [hscope]
  have hsource : r'.source territory = r.source territory := by rw [source, source, hselection]
  have hpredicates : r'.predicates = r.predicates := by
    rw [predicates, predicates, hscope, hselection]
  have hclauses := hasClauses_statement hterritory hr hshape
  have hclauses' := hasClauses_statement hterritory hr' hshape'
  rw [hscope, hsource, hpredicates] at hclauses'
  constructor
  · refine ⟨_, _, tokenize_statement hterritory hr, tokenize_statement hterritory hr', ?_, ?_, ?_⟩
    · rw [hclauses.preamblePart_eq, hclauses'.preamblePart_eq]
    · rw [hclauses.fromPart_eq, hclauses'.fromPart_eq]
    · rw [hclauses.wherePart_eq, hclauses'.wherePart_eq]
  · have hwhere := hasWhere_statement hterritory hr (by rwa [shape_statement])
    have hwhere' := hasWhere_statement hterritory hr' (by rwa [shape_statement])
    rw [hsource, hpredicates] at hwhere'
    exact ⟨_, _, hwhere, hwhere'⟩

/-- Outside function mode, a request for counts and the same request for cells
    search the same places. The qualifier is right behind the first `SELECT` of the
    counts and nowhere else, and nowhere in the cells or in a function call. -/
theorem Request.views_agree {edition : Edition} {label : String} {territory : Territory}
    (hterritory : Territory.lookup? edition label = some territory) {r : Request Degrees}
    (hr : r.scope.IsResolved) :
    let counts := ({ r with cells := false } : Request Degrees).statement territory
    let density := ({ r with cells := true } : Request Degrees).statement territory
    density.shape = (if r.functionMode then .function else .cells) ∧
      (r.functionMode = false → counts.SameSearch density) ∧
      Sql.IsQualifiedOnce counts.render ∧ Sql.IsUnqualified density.render := by
  intro counts density
  have hdensity : density.shape = if r.functionMode then .function else .cells := shape_statement ..
  have hcounts : ({ r with cells := false } : Request Degrees).features.shape ≠ .function := by
    intro hshape
    have hcells := Features.cells_eq ({ r with cells := false } : Request Degrees).features
    rw [hshape] at hcells
    cases hcells
  have hqualified := qualified_statement hterritory (r := { r with cells := false }) hr
  have hunqualified := qualified_statement hterritory (r := { r with cells := true }) hr
  refine ⟨hdensity, fun hmode => ?_, hqualified, hunqualified⟩
  refine sameSearch hterritory rfl rfl hr hcounts ?_
  rw [← shape_statement _ territory, hdensity, hmode]
  decide

/-- Texts that hold the qualifier, a newline or nothing are in literals. -/
theorem views_agree_hostile :
    let r : Request Degrees := { routeSearch "SELECT WITH AGGREGATION_THRESHOLD\n" [] with
      selection := { Selection.fresh with
        placeTypes := ["WITH AGGREGATION_THRESHOLD", "x'\nSELECT WITH AGGREGATION_THRESHOLD "]
        brandNames := ["", "\" WITH AGGREGATION_THRESHOLD"] } }
    let counts := ({ r with cells := false } : Request Degrees).statement berlin
    let density := ({ r with cells := true } : Request Degrees).statement berlin
    counts.shape = .perBrand ∧ density.shape = .cells ∧ counts.SameSearch density ∧
      Sql.IsQualifiedOnce counts.render ∧ Sql.IsUnqualified density.render := by
  intro r counts density
  have hresolved : r.scope.IsResolved := routeSearch_isResolved _ []
  have hcounts : counts.shape = .perBrand := Request.shape_statement ..
  obtain ⟨hdensity, hsame, hqualified, hunqualified⟩ := Request.views_agree lookup?_berlin hresolved
  exact ⟨hcounts, hdensity, hsame rfl, hqualified, hunqualified⟩

end PlaceSearch
