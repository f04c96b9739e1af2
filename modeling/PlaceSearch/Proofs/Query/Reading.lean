-- SUMMARY: What a query engine reads in the text of a statement are the tokens of its parts.
import PlaceSearch.Proofs.Query.Predicates
import PlaceSearch.Proofs.Query.Tokens

/-!
# Reading statements

A reader of a statement's text finds the tokens of its parts, whatever texts a
user chose: `Statement.tokenize_render`. So whatever is asked of the text of a
statement can be asked of its tokens. The proof follows the writers: each part is
read by itself, and a part that ends in a word stands in front of one that goes
on with no word.
-/

namespace PlaceSearch

open Sql (Token Lexeme Fragment Reads ReadsOff Separates Fresh codeTokens listTokens)
open Sql.Fragment (code literal literals)
open Sql.Token (word quoted symbol)

/-! ## Reading conditions -/

namespace Condition

variable {R : Type} [Coordinate R]

omit [Coordinate R] in
theorem reads_typeIn (type : String) : ReadsOff (typeIn type).lexemes (typeInTokens type) := by
  have hin : ReadsOff (Lexeme.ofString " IN UNNEST(places.types)")
      [word "IN", word "UNNEST", symbol '(', word "places.types", symbol ')'] :=
    .spelled (by decide)
  simpa [typeIn, typeInTokens] using (ReadsOff.literal .single type).appendOff hin

theorem reads_geogPoint (hrender : ∀ x : R, IsNumberText (Coordinate.render x)) (p : Point R) :
    ReadsOff (geogPoint p).lexemes (pointTokens p) := by
  have hopen : ReadsOff (Lexeme.ofString "ST_GEOGPOINT(") [word "ST_GEOGPOINT", symbol '('] :=
    .spelled (by decide)
  have hcomma : Separates (Lexeme.ofString ", ") [symbol ','] := by decide
  have hlng := (hrender p.lng).reads.appendOff hcomma
  have hlat := (hrender p.lat).reads.appendOff separates_close
  simpa [geogPoint, pointTokens, toString] using hopen.appendOff (hlng.appendOff hlat)

theorem reads_near (hrender : ∀ x : R, IsNumberText (Coordinate.render x)) (center : Point R)
    (meters : Nat) : Reads (near center meters).toSql.lexemes (near center meters).tokens := by
  have hopen : ReadsOff (Lexeme.ofString "ST_DWITHIN(") [word "ST_DWITHIN", symbol '('] :=
    .spelled (by decide)
  have hcolumn : ReadsOff (Lexeme.ofString ", places.point, ")
      [symbol ',', word "places.point", symbol ','] := .spelled (by decide)
  have hmeters := (reads_natRepr meters).appendOff separates_close
  have h := (hopen.appendOff (reads_geogPoint hrender center)).appendOff (hcolumn.appendOff hmeters)
  simpa [toSql, tokens, toString] using h.reads

omit [Coordinate R] in
theorem reads_rating (bound : RatingBound) : Reads (renderRating bound).lexemes bound.tokens := by
  cases bound with
  | between min max =>
    have hfront : ReadsOff (Lexeme.ofString "places.rating BETWEEN ")
        [word "places.rating", word "BETWEEN"] := .spelled (by decide)
    have hbounds := ((reads_plainNumber min).appendOff separates_and).append (reads_plainNumber max)
    simpa [renderRating, RatingBound.tokens, toString] using hfront.append hbounds
  | atLeast min =>
    have hfront : ReadsOff (Lexeme.ofString "places.rating >= ")
        [word "places.rating", symbol '>', symbol '='] := .spelled (by decide)
    simpa [renderRating, RatingBound.tokens, toString] using hfront.append (reads_plainNumber min)
  | atMost max =>
    have hfront : ReadsOff (Lexeme.ofString "places.rating <= ")
        [word "places.rating", symbol '<', symbol '='] := .spelled (by decide)
    simpa [renderRating, RatingBound.tokens, toString] using hfront.append (reads_plainNumber max)

theorem reads_region (column : RegionColumn) (names : List String) :
    Reads (region column names : Condition R).toSql.lexemes
      (region column names : Condition R).tokens := by
  obtain ⟨field, type⟩ := column
  have hfield := reads_placesColumn fun c hc => field.isNamePart_of_mem hc
  cases type with
  | string =>
    have hin : Separates (Lexeme.ofString " IN (") [word "IN", symbol '('] := by decide
    have hfront : ReadsOff (Lexeme.ofString ("places." ++ field.name ++ " IN ("))
        [word ("places." ++ field.name), word "IN", symbol '('] := by
      rw [Lexeme.ofString_append]
      exact hfield.appendOff hin
    have h := Sql.Fragment.reads_enclosed hfront .single names separates_close
    simpa [toSql, tokens, toString] using h.reads
  | array =>
    have hselect : ReadsOff (Lexeme.ofString "EXISTS (SELECT 1 FROM UNNEST(")
        [word "EXISTS", symbol '(', word "SELECT", word "1", word "FROM", word "UNNEST",
          symbol '('] := .spelled (by decide)
    have hname : Separates (Lexeme.ofString ") AS name WHERE name IN (")
        [symbol ')', word "AS", word "name", word "WHERE", word "name", word "IN",
          symbol '('] := .spelled (by decide)
    have hcode : Lexeme.ofString "EXISTS (SELECT 1 FROM UNNEST(places." =
        Lexeme.ofString "EXISTS (SELECT 1 FROM UNNEST(" ++ Lexeme.ofString "places." :=
      Lexeme.spelled_append rfl
    have hfront := hselect.appendOff (hfield.appendOff hname)
    rw [← Lexeme.ofString_append, ← Lexeme.ofString_append] at hfront
    have hback : Separates (Lexeme.ofString "))") [symbol ')', symbol ')'] := by decide
    have h := Sql.Fragment.reads_enclosed hfront .single names hback
    simpa [toSql, tokens, unnestTokens, toString, hcode] using h.reads

theorem reads_anyType (types : List String) :
    Reads (anyType types : Condition R).toSql.lexemes (anyType types : Condition R).tokens := by
  have hor : Separates (Lexeme.ofString " OR ") [word "OR"] := by decide
  have halternatives : Reads (Fragment.join " OR " (types.map typeIn)).lexemes
      ([word "OR"].intercalate (types.map typeInTokens)) :=
    Sql.Fragment.reads_join hor
      (Sql.Fragment.forall₂_map fun type _ => (reads_typeIn type).reads)
  unfold toSql tokens
  dsimp only
  split
  · have hopen : ReadsOff (Lexeme.ofString "(") [symbol '('] := by decide
    have h := hopen.appendOff (halternatives.appendOff separates_close)
    simpa using h.reads
  · exact halternatives

omit [Coordinate R] in
theorem reads_hoursBound {text column : String} {relation : Char}
    (h : ReadsOff (Lexeme.ofString text)
      [word column, symbol relation, symbol '=', word "TIME"]) (t : ClockTime) :
    Reads (code text ++ literal .single t.render).lexemes (hoursTokens column relation t) := by
  rw [Sql.Fragment.lexemes_append, Sql.Fragment.lexemes_code]
  exact h.append (ReadsOff.literal .single t.render).reads

theorem reads_hours (start finish : Option ClockTime) :
    Reads (hours start finish : Condition R).toSql.lexemes
      (hours start finish : Condition R).tokens := by
  have hstart : ReadsOff (Lexeme.ofString "opening_period.start_time <= TIME ")
      [word "opening_period.start_time", symbol '<', symbol '=', word "TIME"] :=
    .spelled (by decide)
  have hfinish : ReadsOff (Lexeme.ofString "opening_period.end_time >= TIME ")
      [word "opening_period.end_time", symbol '>', symbol '=', word "TIME"] := .spelled (by decide)
  refine Sql.Fragment.reads_join separates_and ?_
  cases start with
  | none =>
    cases finish with
    | none => exact .nil
    | some t => exact .cons (reads_hoursBound hfinish t) .nil
  | some t =>
    cases finish with
    | none => exact .cons (reads_hoursBound hstart t) .nil
    | some u => exact .cons (reads_hoursBound hstart t) (.cons (reads_hoursBound hfinish u) .nil)

/-- What a reader finds in a condition. -/
theorem reads_toSql (hrender : ∀ x : R, IsNumberText (Coordinate.render x)) {c : Condition R}
    (h : c.isVerbatim = false) : Reads c.toSql.lexemes c.tokens := by
  cases c with
  | verbatim text => cases h
  | near center meters => exact reads_near hrender center meters
  | insideArea =>
    have hcode : ReadsOff (Lexeme.ofString "ST_CONTAINS(search_area, places.point)")
        [word "ST_CONTAINS", symbol '(', word "search_area", symbol ',', word "places.point",
          symbol ')'] := .spelled (by decide)
    simpa [toSql, tokens] using hcode.reads
  | alongRoute meters =>
    have hfront : ReadsOff (Lexeme.ofString "ST_DWITHIN(route, places.point, ")
        [word "ST_DWITHIN", symbol '(', word "route", symbol ',', word "places.point",
          symbol ','] := .spelled (by decide)
    have hmeters := (reads_natRepr meters).appendOff separates_close
    simpa [toSql, tokens, toString] using (hfront.appendOff hmeters).reads
  | region column names => exact reads_region column names
  | primaryType types =>
    have hfront : ReadsOff (Lexeme.ofString "places.primary_type IN (")
        [word "places.primary_type", word "IN", symbol '('] := .spelled (by decide)
    exact (Sql.Fragment.reads_enclosed hfront .single types separates_close).reads
  | anyType types => exact reads_anyType types
  | «attribute» name =>
    have hfield := reads_placesColumn fun c hc => name.isNamePart_of_mem hc
    have hback : Reads (Lexeme.ofString " = TRUE") [symbol '=', word "TRUE"] := .spelled (by decide)
    simpa [toSql, tokens, toString] using hfield.append hback (by decide)
  | rating bound => exact reads_rating bound
  | status s =>
    have hfront : ReadsOff (Lexeme.ofString "places.business_status = ")
        [word "places.business_status", symbol '='] := .spelled (by decide)
    simpa [toSql, tokens] using hfront.append (ReadsOff.literal .single s.render).reads
  | brandName names =>
    have hfront : ReadsOff (Lexeme.ofString "brands.name IN (")
        [word "brands.name", word "IN", symbol '('] := .spelled (by decide)
    exact (Sql.Fragment.reads_enclosed hfront .double names separates_close).reads
  | brandCategory category =>
    have hfront : ReadsOff (Lexeme.ofString "brands.category = ")
        [word "brands.category", symbol '='] := .spelled (by decide)
    simpa [toSql, tokens] using hfront.append (ReadsOff.literal .double category).reads
  | hours start finish => exact reads_hours start finish

end Condition

/-! ## Reading sources, preambles and columns -/

/-- Backticks can enclose the name of a table. -/
theorem IsTableName.backtick_notMem {name : String} (h : IsTableName name) :
    '`' ∉ name.toList := h.notMem (by decide)

theorem reads_hoursSource (day : Weekday) :
    Reads (hoursSource day).lexemes (symbol ',' ::
      unnestTokens ("places.regular_opening_hours." ++ day.name) "opening_period") ∧
      Fresh (hoursSource day).lexemes := by
  have hunnest : ReadsOff (Lexeme.ofString ", UNNEST(")
      [symbol ',', word "UNNEST", symbol '('] := by decide
  have hname : Reads (Lexeme.ofString ") AS opening_period")
      [symbol ')', word "AS", word "opening_period"] := .spelled (by decide)
  have hpath : Reads (Lexeme.ofString ("places.regular_opening_hours." ++ day.name))
      [word ("places.regular_opening_hours." ++ day.name)] := by
    refine .word (by simp) fun c hc => ?_
    rw [String.toList_append, List.mem_append] at hc
    rcases hc with hc | hc
    · have hfront : "places.regular_opening_hours.".toList.all Sql.isWordChar = true := by decide
      exact List.all_eq_true.mp hfront c hc
    · have hday : day.name.toList.all Sql.isWordChar = true := by cases day <;> decide
      exact List.all_eq_true.mp hday c hc
  have hcode : Lexeme.ofString ", UNNEST(places.regular_opening_hours." =
      Lexeme.ofString ", UNNEST(" ++ Lexeme.ofString "places.regular_opening_hours." :=
    Lexeme.spelled_append rfl
  refine ⟨?_, ?_⟩
  · have hread := hunnest.append (hpath.append hname (by decide))
    simpa [hoursSource, unnestTokens, toString, hcode] using hread
  · rw [hoursSource, Sql.Fragment.lexemes_code, Lexeme.ofString_append, Lexeme.ofString_append]
    rintro x ⟨⟩
    rfl

theorem reads_brandsSource {table : String} (h : '`' ∉ table.toList) :
    Reads (code (", UNNEST(places.brand_ids) AS brand_id " ++
        s!"LEFT JOIN `{table}` brands ON brand_id = brands.id")).lexemes (brandsTokens table) ∧
      Fresh (code (", UNNEST(places.brand_ids) AS brand_id " ++
        s!"LEFT JOIN `{table}` brands ON brand_id = brands.id")).lexemes := by
  have hids : ReadsOff (Lexeme.ofString ", UNNEST(places.brand_ids) AS brand_id ")
      (symbol ',' :: unnestTokens "places.brand_ids" "brand_id") := .spelled (by decide)
  have hjoin : ReadsOff (Lexeme.ofString "LEFT JOIN ") [word "LEFT", word "JOIN"] := by decide
  have hon : Reads (Lexeme.ofString " brands ON brand_id = brands.id")
      [word "brands", word "ON", word "brand_id", symbol '=', word "brands.id"] :=
    .spelled (by decide)
  have hopen : Lexeme.ofString "LEFT JOIN `" =
      Lexeme.ofString "LEFT JOIN " ++ Lexeme.ofString "`" := Lexeme.spelled_append rfl
  have hclose : Lexeme.ofString "` brands ON brand_id = brands.id" =
      Lexeme.ofString "`" ++ Lexeme.ofString " brands ON brand_id = brands.id" :=
    Lexeme.spelled_append rfl
  refine ⟨?_, ?_⟩
  · have hread := hids.append (hjoin.append ((ReadsOff.quoted h).append hon))
    simpa [brandsTokens, toString, hopen, hclose] using hread
  · rw [Sql.Fragment.lexemes_code, Lexeme.ofString_append]
    rintro x ⟨⟩
    rfl

theorem Source.reads_toSql {s : Source} (h : s.IsNamed) : Reads s.toSql.lexemes s.tokens := by
  have hplaces : Reads (code s!"FROM `{s.places}` places").lexemes
      [word "FROM", quoted s.places, word "places"] := by
    have hfrom : ReadsOff (Lexeme.ofString "FROM ") [word "FROM"] := by decide
    have hname : Reads (Lexeme.ofString " places") [word "places"] := by decide
    have hopen : Lexeme.ofString "FROM `" = Lexeme.ofString "FROM " ++ Lexeme.ofString "`" :=
      Lexeme.spelled_append rfl
    have hclose : Lexeme.ofString "` places" =
        Lexeme.ofString "`" ++ Lexeme.ofString " places" := Lexeme.spelled_append rfl
    have hread := hfrom.append ((ReadsOff.quoted h.places.backtick_notMem).append hname)
    simpa [toString, hopen, hclose] using hread
  have hhours := Sql.Fragment.reads_option fun day (_ : day ∈ s.hoursOn) => reads_hoursSource day
  have hbrands := Sql.Fragment.reads_option fun table htable =>
    reads_brandsSource (h.brands table htable).backtick_notMem
  rw [toSql, Sql.Fragment.lexemes_append, Sql.Fragment.lexemes_append]
  exact (hplaces.append hhours.1 hhours.2).append hbrands.1 hbrands.2

/-- A preamble is read whatever follows it. -/
theorem Preamble.reads_toSql {p : Preamble} (h : p.isVerbatim = false) :
    ReadsOff p.toSql.lexemes p.tokens := by
  have hclose : ReadsOff (Lexeme.ofString ");") [symbol ')', symbol ';'] := by decide
  cases p with
  | verbatim text => cases h
  | searchArea wkt =>
    have hopen : ReadsOff
        (Lexeme.ofString "DECLARE search_area GEOGRAPHY; SET search_area = ST_GEOGFROMTEXT(")
        [word "DECLARE", word "search_area", word "GEOGRAPHY", symbol ';', word "SET",
          word "search_area", symbol '=', word "ST_GEOGFROMTEXT", symbol '('] :=
        .spelled (by decide)
    have htext : (searchArea wkt).toSql = code
        "DECLARE search_area GEOGRAPHY; SET search_area = ST_GEOGFROMTEXT(" ++
          literal .triple wkt ++ code ");" := by simp [toSql, declare, toString]
    rw [htext]
    simpa [tokens, declarationTokens] using
      (hopen.appendOff (.literal .triple wkt)).appendOff hclose
  | route wkt =>
    have hopen : ReadsOff (Lexeme.ofString "DECLARE route GEOGRAPHY; SET route = ST_GEOGFROMTEXT(")
        [word "DECLARE", word "route", word "GEOGRAPHY", symbol ';', word "SET",
          word "route", symbol '=', word "ST_GEOGFROMTEXT", symbol '('] := .spelled (by decide)
    have htext : (route wkt).toSql = code
        "DECLARE route GEOGRAPHY; SET route = ST_GEOGFROMTEXT(" ++
          literal .triple wkt ++ code ");" := by simp [toSql, declare, toString]
    rw [htext]
    simpa [tokens, declarationTokens] using
      (hopen.appendOff (.literal .triple wkt)).appendOff hclose

namespace Counted

/-- A grouping column has a plain name, and with one column for each type there are types. -/
def IsLegible : Counted → Prop
  | .perRegion field => ∀ c ∈ field.toList, Sql.isNamePart c = true
  | .perType types => types ≠ []
  | _ => True

theorem reads_typeColumn (type : String) :
    Reads (typeColumn type).lexemes (typeColumnTokens type) := by
  have hopen : ReadsOff (Lexeme.ofString "COUNTIF(") [word "COUNTIF", symbol '('] := by decide
  have has : ReadsOff (Lexeme.ofString ") AS ") [symbol ')', word "AS"] := by decide
  have hname : Reads (Lexeme.ofString (columnName type)) [word (columnName type)] := by
    exact .word (by simp [columnName]) fun c hc =>
      Sql.isWordChar_of_isNamePart (isNamePart_of_mem_columnName hc)
  have h := (hopen.appendOff (Condition.reads_typeIn type)).append (has.append hname)
  simpa [typeColumn, typeColumnTokens, columnName, toString] using h

/-- The columns are read one by one. -/
theorem reads_columns {counted : Counted} (h : counted.IsLegible) :
    Reads counted.columns.lexemes ([symbol ','].intercalate counted.columnTokens) := by
  have hcomma : Separates (Lexeme.ofString ",\n  ") [symbol ','] := by decide
  cases counted with
  | total =>
    have htotal : Reads (Lexeme.ofString "COUNT(*) AS total_count") totalColumnTokens :=
      .spelled (by decide)
    simpa [columns, columnTokens] using htotal
  | perType types =>
    have htotal : Reads (Lexeme.ofString ", COUNT(*) AS total_count")
        (symbol ',' :: totalColumnTokens) := .spelled (by decide)
    have hlist := Sql.Fragment.reads_join hcomma
      (Sql.Fragment.forall₂_map fun type (_ : type ∈ types) => reads_typeColumn type)
    have hne : types ≠ [] := h
    have hjoin : [symbol ','].intercalate (types.map typeColumnTokens ++ [totalColumnTokens]) =
        [symbol ','].intercalate (types.map typeColumnTokens) ++ [symbol ','] ++
          [symbol ','].intercalate [totalColumnTokens] :=
      Sql.intercalate_append_of_ne_nil (by simpa using hne) (List.cons_ne_nil _ _)
    simpa [columns, columnTokens, hjoin] using hlist.append htotal (by decide)
  | perBrand =>
    have hcolumns : Reads (Lexeme.ofString "brands.name, COUNT(places.id) AS count")
        ([symbol ','].intercalate perBrand.columnTokens) := .spelled (by decide)
    simpa [columns] using hcolumns
  | perRegion field =>
    have hback : Reads (Lexeme.ofString " AS region_name, COUNT(*) AS count")
        [word "AS", word "region_name", symbol ',', word "COUNT", symbol '(', symbol '*',
          symbol ')', word "AS", word "count"] := .spelled (by decide)
    simpa [columns, columnTokens, toString, List.intercalate_cons_cons] using
      (reads_placesColumn h).append hback (by decide)

theorem reads_grouping (counted : Counted) :
    Reads counted.grouping.lexemes counted.groupingTokens := by
  cases counted with
  | total => exact .nil
  | perType types => exact .nil
  | perBrand =>
    have hgroup : Reads (Lexeme.ofString "GROUP BY brands.name ORDER BY count DESC")
        perBrand.groupingTokens := .spelled (by decide)
    simpa [grouping] using hgroup
  | perRegion field =>
    have hgroup : Reads (Lexeme.ofString "GROUP BY region_name ORDER BY count DESC")
        [word "GROUP", word "BY", word "region_name", word "ORDER", word "BY", word "count",
          word "DESC"] := .spelled (by decide)
    simpa [grouping, groupingTokens] using hgroup

end Counted

/-! ## Reading statements -/

theorem FunctionSelection.reads_entry (key : String) {value : Fragment} {ts : List Token}
    (h : Reads value.lexemes ts) : Reads (entry key value).lexemes (entryTokens key ts) := by
  have hcomma : ReadsOff (Lexeme.ofString ", ") [symbol ','] := by decide
  have hkey := (ReadsOff.literal .single key).appendOff hcomma
  simpa [entry, entryTokens] using hkey.append h

theorem FunctionSelection.reads_bracketed (q : Sql.Quote) (texts : List String) :
    Reads (bracketed (literals q texts)).lexemes
      ([symbol '['] ++ listTokens q texts ++ [symbol ']']) := by
  have hopen : ReadsOff (Lexeme.ofString "[") [symbol '['] := by decide
  have hclose : Separates (Lexeme.ofString "]") [symbol ']'] := by decide
  exact (Sql.Fragment.reads_enclosed hopen q texts hclose).reads

/-- The entries are read one by one. -/
theorem FunctionSelection.forall₂_reads_entries (s : FunctionSelection) :
    List.Forall₂ (fun f ts => Reads f.lexemes ts) s.entries s.tokens := by
  have hstatus (status : BusinessStatus) : Reads
      (entry "business_status" (bracketed (literal .single status.render))).lexemes
      (entryTokens "business_status" ([symbol '['] ++ [.literal .single status.render] ++
        [symbol ']'])) := by
    have hlist := reads_bracketed .single [status.render]
    exact reads_entry _ (by simpa [listTokens, literals, Fragment.join] using hlist)
  have hnumber (key : String) (x : Float) : Reads (entry key (code (plainNumber x))).lexemes
      (entryTokens key (codeTokens (plainNumber x))) :=
    reads_entry key (by simpa using reads_plainNumber x)
  have htrue (name : Sql.Identifier) : Reads (entry name.name (code "TRUE")).lexemes
      (entryTokens name.name [word "TRUE"]) := reads_entry _ (by decide)
  have htypes : List.Forall₂ (fun f ts => Reads (Fragment.lexemes f) ts)
      (if s.placeTypes.isEmpty then []
        else [entry (if s.primaryTypeOnly then "primary_type" else "types")
          (bracketed (literals .double s.placeTypes))])
      (if s.placeTypes.isEmpty then []
        else [entryTokens (if s.primaryTypeOnly then "primary_type" else "types")
          ([symbol '['] ++ listTokens .double s.placeTypes ++ [symbol ']'])]) := by
    split
    · exact .nil
    · exact .cons (reads_entry _ (reads_bracketed .double s.placeTypes)) .nil
  unfold entries tokens
  simp only [Option.toList_map]
  refine List.rel_append (List.rel_append (List.rel_append (List.rel_append ?_ htypes) ?_) ?_) ?_
  · exact Sql.Fragment.forall₂_map fun status _ => hstatus status
  · exact Sql.Fragment.forall₂_map fun x _ => hnumber "min_rating" x
  · exact Sql.Fragment.forall₂_map fun x _ => hnumber "max_rating" x
  · exact Sql.Fragment.forall₂_map fun name _ => htrue name

/-- A part behind a space is fresh, and so is nothing. -/
theorem Sql.Fragment.reads_behindSpace {f : Fragment} {ts : List Token} (h : Reads f.lexemes ts) :
    Reads f.behindSpace.lexemes ts ∧ Fresh f.behindSpace.lexemes := by
  unfold behindSpace
  split
  · next hempty =>
    rw [lexemes_eq_nil_of_isEmpty hempty] at h
    exact ⟨h, by rintro x ⟨⟩⟩
  · have hspace : ReadsOff (Lexeme.ofString " ") [] := by decide
    rw [lexemes_append, lexemes_code]
    exact ⟨hspace.append h, by rintro x ⟨⟩; rfl⟩

namespace Statement

variable {R : Type} [Coordinate R]

theorem reads_whereClause (hrender : ∀ x : R, IsNumberText (Coordinate.render x))
    {conditions : List (Condition R)} (h : ∀ c ∈ conditions, c.isVerbatim = false) :
    Reads (whereClause conditions).lexemes (whereTokens conditions) := by
  have hwhere : ReadsOff (Lexeme.ofString "WHERE ") [word "WHERE"] := by decide
  have hlist := Sql.Fragment.reads_join separates_and
    (Sql.Fragment.forall₂_map fun c hc => Condition.reads_toSql hrender (h c hc))
  unfold whereClause whereTokens Fragment.whereAll
  rw [List.isEmpty_map]
  split
  · exact .nil
  · simpa using hwhere.append hlist

/-- A preamble with a break behind it, or nothing. -/
theorem readsOff_declared {preamble : Option Preamble} {gap : String}
    (hgap : ReadsOff (Lexeme.ofString gap) [])
    (hpreamble : ∀ p ∈ preamble, p.isVerbatim = false) :
    ReadsOff ((preamble.map fun p => p.toSql ++ code gap).getD []).lexemes
      ((preamble.map Preamble.tokens).getD []) := by
  cases preamble with
  | none => exact ⟨rfl, rfl⟩
  | some p => simpa using (Preamble.reads_toSql (hpreamble p rfl)).appendOff hgap

theorem reads_countLead {preamble : Option Preamble} {counted : Counted}
    (hpreamble : ∀ p ∈ preamble, p.isVerbatim = false) (hcounted : counted.IsLegible) :
    ReadsOff (countLead preamble counted).lexemes
      ((preamble.map Preamble.tokens).getD [] ++ selectTokens counted) := by
  have hspace : Separates (Lexeme.ofString " ") [] := by decide
  have hselect : ReadsOff (Lexeme.ofString s!"SELECT {privacyQualifier} ")
      [word "SELECT", word "WITH", word "AGGREGATION_THRESHOLD"] := by decide
  have hcolumns := hselect.appendOff ((Counted.reads_columns hcounted).appendOff hspace)
  have hdeclared : (if ((preamble.map Preamble.toSql).getD []).render.isEmpty then []
      else (preamble.map Preamble.toSql).getD [] ++ code " " : Fragment) =
        (preamble.map fun p => p.toSql ++ code " ").getD [] := by
    cases preamble with
    | none => rfl
    | some p =>
      have hp := hpreamble p rfl
      cases p with
      | verbatim text => cases hp
      | searchArea wkt => simp [Preamble.toSql, Preamble.declare, toString, code, Sql.Piece.render]
      | route wkt => simp [Preamble.toSql, Preamble.declare, toString, code, Sql.Piece.render]
  have h := (readsOff_declared hspace.readsOff hpreamble).appendOff hcolumns
  unfold countLead
  dsimp only
  rw [hdeclared]
  simpa [selectTokens, countSelect] using h

theorem reads_cellLead {preamble : Option Preamble} (resolution : Nat)
    (hpreamble : ∀ p ∈ preamble, p.isVerbatim = false) :
    ReadsOff (cellLead preamble resolution).lexemes
      ((preamble.map Preamble.tokens).getD [] ++ cellTokens resolution) := by
  have hbreak : Separates (Lexeme.ofString "\n") [] := by decide
  have hline {text : String} {ts : List Token} (h : Reads (Lexeme.ofString text) ts) :
      ReadsOff (code text ++ code "\n").lexemes ts := by
    simpa using h.appendOff hbreak
  have hindices : ReadsOff (Lexeme.ofString "SELECT\n  ARRAY_AGG(h3_index) AS indices,\n")
      [word "SELECT", word "ARRAY_AGG", symbol '(', word "h3_index", symbol ')', word "AS",
        word "indices", symbol ','] := .spelled (by decide)
  have hcounts : ReadsOff (Lexeme.ofString "  ARRAY_AGG(place_count) AS counts\nFROM (\n  ")
      [word "ARRAY_AGG", symbol '(', word "place_count", symbol ')', word "AS", word "counts",
        word "FROM", symbol '('] := .spelled (by decide)
  have houter := hindices.appendOff hcounts
  rw [← Lexeme.ofString_append, ← Sql.Fragment.lexemes_code] at houter
  have hselect : Reads (Lexeme.ofString "SELECT") [word "SELECT"] := by decide
  have hcell : Reads
      (Lexeme.ofString s!"    {cellOfPoint}(places.point, {resolution}) AS h3_index,")
      [quoted "carto-os.carto.H3_FROMGEOGPOINT", symbol '(', word "places.point", symbol ',',
        word resolution.repr, symbol ')', word "AS", word "h3_index", symbol ','] := by
    have hopen : ReadsOff (Lexeme.ofString ("    " ++ cellOfPoint ++ "(places.point, "))
        [quoted "carto-os.carto.H3_FROMGEOGPOINT", symbol '(', word "places.point",
          symbol ','] := by decide
    have hclose : Separates (Lexeme.ofString ") AS h3_index,")
        [symbol ')', word "AS", word "h3_index", symbol ','] := .spelled (by decide)
    have h := hopen.appendOff ((reads_natRepr resolution).appendOff hclose)
    simpa [toString] using h.reads
  have hcount : Reads (Lexeme.ofString "    COUNT(*) AS place_count")
      [word "COUNT", symbol '(', symbol '*', symbol ')', word "AS", word "place_count"] :=
    .spelled (by decide)
  have hindent : ReadsOff (code "  ").lexemes [] := by decide
  have h := (((((readsOff_declared hbreak.readsOff hpreamble).appendOff houter).appendOff
    (hline hselect)).appendOff (hline hcell)).appendOff (hline hcount)).appendOff hindent
  simpa [cellLead, cellTokens] using h

theorem reads_functionLead {dataset : String} (h : '`' ∉ dataset.toList) :
    ReadsOff (Lexeme.ofString
      s!"SELECT * FROM `{dataset}.{densityFunction}`(\n  JSON_OBJECT(\n    ")
      [word "SELECT", symbol '*', word "FROM", quoted (dataset ++ "." ++ densityFunction),
        symbol '(', word "JSON_OBJECT", symbol '('] := by
  have hselect : ReadsOff (Lexeme.ofString "SELECT * FROM ")
      [word "SELECT", symbol '*', word "FROM"] := by decide
  have hcall : ReadsOff (Lexeme.ofString "(\n  JSON_OBJECT(\n    ")
      [symbol '(', word "JSON_OBJECT", symbol '('] := .spelled (by decide)
  have hopen : Lexeme.ofString "SELECT * FROM `" =
      Lexeme.ofString "SELECT * FROM " ++ Lexeme.ofString "`" := Lexeme.spelled_append rfl
  have hclose : Lexeme.ofString "`(\n  JSON_OBJECT(\n    " =
      Lexeme.ofString "`" ++ Lexeme.ofString "(\n  JSON_OBJECT(\n    " :=
    Lexeme.spelled_append rfl
  have hname : '`' ∉ (dataset ++ "." ++ densityFunction).toList := by
    have hfunction : '`' ∉ densityFunction.toList := by decide
    simp [h, hfunction]
  have hread := hselect.appendOff ((ReadsOff.quoted hname).appendOff hcall)
  simpa [toString, hopen, hclose] using hread

theorem forall₂_reads_functionEntries (hrender : ∀ x : R, IsNumberText (Coordinate.render x))
    (center : Point R) (meters resolution : Nat) (filters : FunctionSelection) :
    List.Forall₂ (fun f ts => Reads f.lexemes ts)
      (functionEntries center meters resolution filters)
      (argumentTokens center meters resolution filters) := by
  have hnumber (key : String) (n : Nat) :
      Reads (FunctionSelection.entry key (code (toString n))).lexemes
        (FunctionSelection.entryTokens key [word n.repr]) :=
    FunctionSelection.reads_entry key (by simpa [toString] using reads_natRepr n)
  have hpoint := FunctionSelection.reads_entry "geography"
    (Condition.reads_geogPoint hrender center).reads
  refine List.rel_append ?_ filters.forall₂_reads_entries
  exact .cons hpoint (.cons (hnumber _ meters) (.cons (hnumber _ resolution) .nil))

/-- The names in the statement can be told apart by a reader. -/
def IsLegible : Statement R → Prop
  | .count preamble counted source conditions =>
    (∀ p ∈ preamble, p.isVerbatim = false) ∧ counted.IsLegible ∧ source.IsNamed ∧
      ∀ c ∈ conditions, c.isVerbatim = false
  | .cells preamble _ source conditions =>
    (∀ p ∈ preamble, p.isVerbatim = false) ∧ source.IsNamed ∧
      ∀ c ∈ conditions, c.isVerbatim = false
  | .function dataset .. => IsTableName dataset

omit [Coordinate R] in
/-- Whatever a reader can tell apart, a scanner can. -/
theorem IsLegible.isBuilt {s : Statement R} (h : s.IsLegible) : s.IsBuilt := by
  cases s with
  | count preamble counted source conditions =>
    obtain ⟨hpreamble, hcounted, hsource, hconditions⟩ := h
    refine ⟨hpreamble, ?_, hsource.isBare, hconditions⟩
    cases counted with
    | perRegion field => exact fun c hc => Sql.isQuote_of_isNamePart (hcounted c hc)
    | _ => trivial
  | cells preamble resolution source conditions =>
    obtain ⟨hpreamble, hsource, hconditions⟩ := h
    exact ⟨hpreamble, hsource.isBare, hconditions⟩
  | function dataset center meters resolution filters => exact IsTableName.bare h

theorem reads_toSql (hrender : ∀ x : R, IsNumberText (Coordinate.render x)) {s : Statement R}
    (h : s.IsLegible) : Reads s.toSql.lexemes s.tokens := by
  cases s with
  | count preamble counted source conditions =>
    obtain ⟨hpreamble, hcounted, hsource, hconditions⟩ := h
    have hwhere := Sql.Fragment.reads_behindSpace (reads_whereClause hrender hconditions)
    have hgrouping := Sql.Fragment.reads_behindSpace counted.reads_grouping
    have hlead := (reads_countLead hpreamble hcounted).append (Source.reads_toSql hsource)
    have hread := (hlead.append hwhere.1 hwhere.2).append hgrouping.1 hgrouping.2
    rw [toSql_count_eq, List.append_assoc (countLead preamble counted ++ source.toSql),
      ← behindSpace_whereClause]
    simpa only [Sql.Fragment.lexemes_append, tokens] using hread
  | cells preamble resolution source conditions =>
    obtain ⟨hpreamble, hsource, hconditions⟩ := h
    have hlead := (reads_cellLead resolution hpreamble).append (Source.reads_toSql hsource)
    have hback : Reads cellBack.lexemes cellGroupingTokens := by decide +kernel
    have hwhere := reads_whereClause hrender hconditions
    rw [toSql_cells_eq, tokens]
    cases conditions with
    | nil =>
      have h := hlead.append hback (by decide)
      simpa [whereClause, Fragment.whereAll, whereTokens] using h
    | cons c rest =>
      have hgap : ReadsOff (code "\n" ++ code "  ").lexemes [] := by decide
      have hne : (whereClause (c :: rest)).render ≠ "" :=
        fun h => List.cons_ne_nil _ _ (render_whereClause_eq_empty_iff.mp h)
      have h := (hlead.append (hgap.append hwhere) (by rintro x ⟨⟩; rfl)).append hback (by decide)
      rw [if_neg hne]
      simpa using h
  | function dataset center meters resolution filters =>
    have hcomma : Separates (Lexeme.ofString ",\n    ") [symbol ','] := by decide
    have hclose : Separates (Lexeme.ofString "\n  )\n)") [symbol ')', symbol ')'] := by decide
    have hentries := Sql.Fragment.reads_join hcomma
      (forall₂_reads_functionEntries hrender center meters resolution filters)
    have hread := (reads_functionLead h.backtick_notMem).appendOff (hentries.appendOff hclose)
    simpa only [toSql, tokens, Sql.Fragment.lexemes_append, Sql.Fragment.lexemes_code,
      List.append_assoc] using hread.reads

/-- A reader of the statement finds the tokens of its parts. -/
theorem tokenize_render (hrender : ∀ x : R, IsNumberText (Coordinate.render x)) {s : Statement R}
    (h : s.IsLegible) : Sql.tokenize s.render = some s.tokens := by
  have hclosed := closed_toSql (fun x => (hrender x).bare) h.isBuilt
  rw [Sql.tokenize, render, Sql.Fragment.lex_render hclosed.scannable]
  exact reads_toSql hrender h

end Statement

/-! ## Reading requests -/

/-- When a statement has one column for each type. -/
theorem Features.eq_of_shape_eq_perType {f : Features} (h : f.shape = .perType) :
    f.cells = false ∧ f.multipleRegions = false ∧ f.brands = false ∧ 1 < f.placeTypes := by
  obtain ⟨cells, functionMode, multipleRegions, brands, placeTypes⟩ := f
  cases cells <;> cases functionMode <;> cases multipleRegions <;> cases brands <;>
    simp_all [shape]

theorem Features.brands_of_shape_eq_perBrand {f : Features} (h : f.shape = .perBrand) :
    f.brands = true := by
  obtain ⟨cells, functionMode, multipleRegions, brands, placeTypes⟩ := f
  cases cells <;> cases functionMode <;> cases multipleRegions <;> cases brands <;>
    simp_all [shape] <;> split at h <;> cases h

theorem Features.multipleRegions_of_shape_eq_perRegion {f : Features} (h : f.shape = .perRegion) :
    f.multipleRegions = true := by
  obtain ⟨cells, functionMode, multipleRegions, brands, placeTypes⟩ := f
  cases cells <;> cases functionMode <;> cases multipleRegions <;> cases brands <;>
    simp_all [shape] <;> split at h <;> cases h

theorem Request.isLegible_statement {R : Type} [Coordinate R] {edition : Edition} {label : String}
    {territory : Territory} (hterritory : Territory.lookup? edition label = some territory)
    {r : Request R} (h : r.scope.IsResolved) : (r.statement territory).IsLegible := by
  have hsource := r.isNamed_source hterritory
  have hdataset :=
    Territory.isTableName_functionDataset (Territory.isTableName_country hterritory)
  have hconditions : ∀ c ∈ r.conditions, c.isVerbatim = false := by
    intro c hc
    rw [conditions_eq] at hc
    exact (isWritten_of_mem_predicates h hc).isVerbatim_eq
  have hfield : ∀ c ∈ r.regionField.toList, Sql.isNamePart c = true := by
    unfold regionField
    split
    · next region _ => exact fun c hc => region.column.field.isNamePart_of_mem hc
    · exact List.all_eq_true.mp (by decide)
  have hpreamble := h.preamble_isVerbatim
  unfold statement
  cases hshape : r.features.shape with
  | function => exact hdataset
  | cells => exact ⟨hpreamble, hsource, hconditions⟩
  | perRegion => exact ⟨hpreamble, hfield, hsource, hconditions⟩
  | perBrand => exact ⟨hpreamble, trivial, hsource, hconditions⟩
  | perType =>
    have hseveral : 1 < r.selection.placeTypes.length :=
      (Features.eq_of_shape_eq_perType hshape).2.2.2
    have hne : r.selection.placeTypes ≠ [] := List.ne_nil_of_length_pos (by omega)
    exact ⟨hpreamble, hne, hsource, hconditions⟩
  | total => exact ⟨hpreamble, trivial, hsource, hconditions⟩

/-- A reader of the statement of a request finds the tokens of its parts. -/
theorem Request.tokenize_statement {edition : Edition} {label : String} {territory : Territory}
    (hterritory : Territory.lookup? edition label = some territory) {r : Request Degrees}
    (h : r.scope.IsResolved) :
    Sql.tokenize (r.statement territory).render = some (r.statement territory).tokens :=
  Statement.tokenize_render (fun x => isNumberText_plainNumber x.value)
    (isLegible_statement hterritory h)

end PlaceSearch
