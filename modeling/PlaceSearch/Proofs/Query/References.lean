-- SUMMARY: Every alias and every script variable that a statement refers to is introduced in it.
import PlaceSearch.Proofs.Query.Clauses

/-!
# References

A statement refers to tables by their aliases, as in `brands.name`, and to the
variables of its script by their bare names. An alias has to be introduced by the
`FROM` clause, a variable by the declaration in front of the statement. What is
referred to and what is introduced are written by different parts of a request
under conditions of their own; here they are shown to agree.
-/

namespace PlaceSearch

open Sql (Token codeTokens listTokens)
open Sql.Token (word quoted symbol)

/-- What a word may refer to. -/
inductive Reference where
  /-- A table or an array, by the alias in front of a dot. -/
  | table (name : String)
  /-- A variable of the script, by its bare name. -/
  | script (name : String)
deriving DecidableEq

namespace Reference

/-- The names of the variables that scripts declare. -/
def scriptNames : List String := ["search_area", "route"]

/-- A dotted path, not a number with a point. -/
def isPath (text : String) : Bool :=
  text.toList.head?.any Sql.isNameStart && text.toList.contains '.'

/-- The part of a path in front of its first dot. -/
def aliasOf (path : String) : String := String.ofList (path.toList.takeWhile (· != '.'))

/-- What a token refers to, if to anything. Literals refer to nothing. -/
def ofToken? : Token → Option Reference
  | .word text =>
    if isPath text then some (.table (aliasOf text))
    else if scriptNames.contains text then some (.script text) else none
  | _ => none

end Reference

/-- What some tokens refer to. -/
def references (ts : List Token) : List Reference := ts.filterMap Reference.ofToken?

/-- The statement introduces what is referred to: an alias stands in its `FROM`
    clause behind a table or an array, and a variable is all that the script in
    front of it declares. -/
def Introduces (ts : List Token) : Reference → Prop
  | .table name =>
    (∃ table, [quoted table, word name] <:+: Sql.fromPart ts) ∨
      ∃ path, unnestTokens path name <:+: Sql.fromPart ts
  | .script name => ∃ wkt, declarationTokens name wkt ++ [word "SELECT"] <+: ts

/-! ## References of tokens -/

@[simp] theorem references_append (ts us : List Token) :
    references (ts ++ us) = references ts ++ references us := List.filterMap_append

@[simp] theorem references_nil : references [] = [] := rfl

@[simp] theorem references_cons (t : Token) (ts : List Token) :
    references (t :: ts) = (Reference.ofToken? t).toList ++ references ts := by
  cases h : Reference.ofToken? t <;> simp [references, h]

@[simp] theorem ofToken?_symbol (c : Char) : Reference.ofToken? (symbol c) = none := rfl

@[simp] theorem ofToken?_literal (q : Sql.Quote) (text : String) :
    Reference.ofToken? (.literal q text) = none := rfl

@[simp] theorem ofToken?_quoted (name : String) : Reference.ofToken? (quoted name) = none := rfl

theorem references_eq_nil {ts : List Token} (h : ∀ t ∈ ts, Reference.ofToken? t = none) :
    references ts = [] := List.filterMap_eq_nil_iff.mpr h

/-- No name starts like a number. -/
theorem Sql.isNameStart_of_isNumeral {c : Char} (h : (c.isDigit || c == '.') = true) :
    isNameStart c = false := by
  rw [Bool.or_eq_true, beq_iff_eq] at h
  rcases h with h | rfl
  · rw [isNameStart, Bool.or_eq_false_iff]
    refine ⟨?_, ?_⟩
    · have halpha : c.isAlpha = (decide (c.val ≥ 65 ∧ c.val ≤ 90) ||
          decide (c.val ≥ 97) && decide (c.val ≤ 122)) := rfl
      simp [halpha, Char.isDigit, UInt32.le_iff_toNat_le] at h ⊢
      omega
    · rw [beq_eq_false_iff_ne]
      rintro rfl
      revert h
      decide
  · decide

/-- Numbers refer to nothing. -/
theorem ofToken?_of_isNumeric {t : Token} (h : t.isNumeric = true) :
    Reference.ofToken? t = none := by
  cases t with
  | word text =>
    have hpath : Reference.isPath text = false := by
      rw [Token.isNumeric, Bool.or_eq_true, List.all_eq_true] at h
      rcases h with h | h
      · have hhead : text.toList.head?.any Sql.isNameStart = false := by
          rw [Option.any_eq_false]
          intro c hc
          exact Sql.isNameStart_of_isNumeral (h c (List.mem_of_mem_head? hc))
        rw [Reference.isPath, hhead, Bool.false_and]
      · have hnames : ∀ name ∈ ["NaN", "inf"], Reference.isPath name = false := by decide
        exact hnames text (by simpa using h)
    have hscript : ∀ name ∈ Reference.scriptNames, (word name).isNumeric = false := by decide
    rw [Reference.ofToken?, hpath, if_neg Bool.false_ne_true, if_neg]
    rw [List.contains_eq_mem, decide_eq_true_eq]
    intro hmem
    rw [hscript text hmem] at h
    cases h
  | _ => rfl

@[simp] theorem ofToken?_placesColumn (field : String) :
    Reference.ofToken? (word ("places." ++ field)) = some (.table "places") := by
  have hchars : ("places." ++ field).toList = "places".toList ++ '.' :: field.toList := by simp
  have hpath : Reference.isPath ("places." ++ field) = true := by
    rw [Reference.isPath, hchars]
    simp [Sql.isNameStart]
  have halias : Reference.aliasOf ("places." ++ field) = "places" := by
    rw [Reference.aliasOf, hchars, List.takeWhile_append_of_pos (List.all_eq_true.mp (by decide))]
    simp
  rw [Reference.ofToken?, if_pos hpath, halias]

@[simp] theorem ofToken?_columnName (type : String) :
    Reference.ofToken? (word (Counted.columnName type)) = none := by
  have hpath : Reference.isPath (Counted.columnName type) = false := by
    have hpoint : '.' ∉ (Counted.columnName type).toList :=
      fun hmem => absurd (Counted.isNamePart_of_mem_columnName hmem) (by decide)
    rw [Reference.isPath, List.contains_eq_mem, decide_eq_false hpoint, Bool.and_false]
  have hlast : (Counted.columnName type).toList.getLast? = some 't' := by
    simp [Counted.columnName]
  have hscript : ∀ name ∈ Reference.scriptNames, name.toList.getLast? ≠ some 't' := by decide
  rw [Reference.ofToken?, hpath, if_neg Bool.false_ne_true, if_neg]
  rw [List.contains_eq_mem, decide_eq_true_eq]
  exact fun hmem => hscript _ hmem hlast

@[simp] theorem references_listTokens (q : Sql.Quote) (texts : List String) :
    references (listTokens q texts) = [] := by
  refine references_eq_nil (Sql.forall_mem_intercalate (by decide) fun ts hts => ?_)
  obtain ⟨text, -, rfl⟩ := List.mem_map.mp hts
  simp [Reference.ofToken?]

theorem references_number {text : String} (h : IsNumberText text) :
    references (codeTokens text) = [] :=
  references_eq_nil fun _ ht => ofToken?_of_isNumeric (h.isNumeric_of_mem ht)

@[simp] theorem ofToken?_natRepr (n : Nat) : Reference.ofToken? (word n.repr) = none :=
  ofToken?_of_isNumeric (isNumeric_natRepr n)

@[simp] theorem references_plainNumber (x : Float) : references (codeTokens (plainNumber x)) = [] :=
  references_number (isNumberText_plainNumber x)

/-! ## References of the parts -/

/-- What a condition refers to. -/
def Condition.uses {R : Type} : Condition R → List Reference
  | .insideArea => [.script "search_area", .table "places"]
  | .alongRoute _ => [.script "route", .table "places"]
  | .brandName _ | .brandCategory _ => [.table "brands"]
  | .hours _ _ => [.table "opening_period"]
  | _ => [.table "places"]

theorem references_typeIn (type : String) :
    references (typeInTokens type) = [.table "places"] := by
  have hcode : references [word "IN", word "UNNEST", symbol '(', word "places.types", symbol ')'] =
      [.table "places"] := by decide
  rw [typeInTokens, references_cons, hcode]
  rfl

theorem references_hours {column : String}
    (h : Reference.ofToken? (word column) = some (.table "opening_period")) (relation : Char)
    (t : ClockTime) :
    references (hoursTokens column relation t) = [.table "opening_period"] := by
  have htime : Reference.ofToken? (word "TIME") = none := by decide
  simp [hoursTokens, h, htime]

/-- Joined parts have the values of the parts, if the separator has none. -/
theorem filterMap_intercalate {α β : Type} (f : α → Option β) {separator : List α}
    (hsep : separator.filterMap f = []) (parts : List (List α)) :
    (separator.intercalate parts).filterMap f = parts.flatMap (List.filterMap f) := by
  induction parts with
  | nil => rfl
  | cons p rest ih =>
    cases rest with
    | nil => simp
    | cons q rest =>
      simp only [List.intercalate_cons_cons, List.filterMap_append, hsep, List.append_nil, ih,
        List.flatMap_cons]

/-- Joined parts refer to what the parts refer to. -/
theorem references_intercalate {separator : List Token} (hsep : references separator = [])
    (parts : List (List Token)) :
    references (separator.intercalate parts) = parts.flatMap references :=
  filterMap_intercalate Reference.ofToken? hsep parts

theorem references_condition {R : Type} [Coordinate R]
    (hrender : ∀ x : R, IsNumberText (Coordinate.render x)) {c : Condition R}
    (h : c.isVerbatim = false) : references c.tokens ⊆ c.uses := by
  have hplain : ∀ text ∈ ["ST_DWITHIN", "ST_CONTAINS", "ST_GEOGPOINT", "IN", "EXISTS", "SELECT",
      "1", "FROM", "UNNEST", "AS", "name", "WHERE", "AND", "OR", "BETWEEN", "TRUE"],
      Reference.ofToken? (word text) = none := by decide
  have hplaces : ∀ text ∈ ["places.point", "places.primary_type", "places.rating",
      "places.business_status"], Reference.ofToken? (word text) = some (.table "places") := by
    decide
  have hbrands : ∀ text ∈ ["brands.name", "brands.category"],
      Reference.ofToken? (word text) = some (.table "brands") := by decide
  have hhours : ∀ text ∈ ["opening_period.start_time", "opening_period.end_time"],
      Reference.ofToken? (word text) = some (.table "opening_period") := by decide
  have hscript : ∀ text ∈ Reference.scriptNames,
      Reference.ofToken? (word text) = some (.script text) := by decide
  simp only [Reference.scriptNames, List.forall_mem_cons, List.not_mem_nil, false_imp_iff,
    implies_true, and_true] at hplain hplaces hbrands hhours hscript
  cases c with
  | verbatim text => cases h
  | near center meters =>
    simp [Condition.tokens, pointTokens, Condition.uses, references_number (hrender _), hplain,
      hplaces]
  | insideArea => simp [Condition.tokens, Condition.uses, hplain, hplaces, hscript]
  | alongRoute meters => simp [Condition.tokens, Condition.uses, hplain, hplaces, hscript]
  | region column names =>
    obtain ⟨field, type⟩ := column
    cases type <;> simp [Condition.tokens, Condition.uses, unnestTokens, hplain]
  | primaryType types => simp [Condition.tokens, Condition.uses, hplain, hplaces]
  | anyType types =>
    have halternatives : references ([word "OR"].intercalate (types.map typeInTokens)) ⊆
        [.table "places"] := by
      rw [references_intercalate (by simp [hplain]), List.flatMap_map]
      simp [references_typeIn, List.subset_def]
    unfold Condition.tokens
    dsimp only
    split
    · simpa [Condition.uses] using halternatives
    · exact halternatives
  | «attribute» name => simp [Condition.tokens, Condition.uses, hplain]
  | rating bound =>
    cases bound <;> simp [Condition.tokens, RatingBound.tokens, Condition.uses, hplain, hplaces]
  | status s => simp [Condition.tokens, Condition.uses, hplaces]
  | brandName names => simp [Condition.tokens, Condition.uses, hplain, hbrands]
  | brandCategory category => simp [Condition.tokens, Condition.uses, hbrands]
  | hours start finish =>
    cases start <;> cases finish <;>
      simp [Condition.tokens, Condition.uses, List.intercalate_cons_cons, references_hours hhours.1,
        references_hours hhours.2, hplain]

theorem references_whereTokens {R : Type} [Coordinate R]
    (hrender : ∀ x : R, IsNumberText (Coordinate.render x)) {conditions : List (Condition R)}
    (h : ∀ c ∈ conditions, c.isVerbatim = false) {ref : Reference}
    (href : ref ∈ references (Statement.whereTokens conditions)) :
    ∃ c ∈ conditions, ref ∈ c.uses := by
  unfold Statement.whereTokens at href
  split at href
  · simp at href
  · have hwords : ∀ text ∈ ["WHERE", "AND"], Reference.ofToken? (word text) = none := by decide
    rw [references_cons, hwords "WHERE" (by decide), references_intercalate (by decide)] at href
    simp only [Option.toList_none, List.nil_append, List.mem_flatMap, List.mem_map] at href
    obtain ⟨_, ⟨c, hc, rfl⟩, href⟩ := href
    exact ⟨c, hc, references_condition hrender (h c hc) href⟩

/-- A joined list has all of each part. -/
theorem subset_intercalate {α : Type} {separator part : List α} {parts : List (List α)}
    (h : part ∈ parts) : part ⊆ separator.intercalate parts := by
  cases parts with
  | nil => cases h
  | cons first rest =>
    rw [intercalate_cons_eq_append_flatMap]
    obtain rfl | h := List.mem_cons.mp h
    · exact List.subset_append_left _ _
    · intro x hx
      exact List.mem_append_right _ (List.mem_flatMap.mpr ⟨part, h, List.mem_append_right _ hx⟩)

/-- A clause has the tokens of each of its conditions. -/
theorem tokens_subset_whereTokens {R : Type} [Coordinate R] {conditions : List (Condition R)}
    {c : Condition R} (h : c ∈ conditions) : c.tokens ⊆ Statement.whereTokens conditions := by
  have hne : conditions.isEmpty = false := by
    rw [List.isEmpty_eq_false_iff]
    exact List.ne_nil_of_mem h
  rw [Statement.whereTokens, hne, if_neg Bool.false_ne_true]
  exact List.subset_cons_of_subset _ (subset_intercalate (List.mem_map_of_mem h))

/-- So it refers to whatever one of them refers to. -/
theorem references_subset_whereTokens {R : Type} [Coordinate R] {conditions : List (Condition R)}
    {c : Condition R} (h : c ∈ conditions) :
    references c.tokens ⊆ references (Statement.whereTokens conditions) :=
  List.filterMap_subset _ (tokens_subset_whereTokens h)

/-- What a source refers to: the places, and the brands if it joins them. -/
theorem references_source {s : Source} {ref : Reference} (h : ref ∈ references s.tokens) :
    ref = .table "places" ∨ ref = .table "brands" ∧ s.brands.isSome := by
  have hhours (day : Weekday) : Reference.ofToken?
      (word ("places.regular_opening_hours." ++ day.name)) = some (.table "places") := by
    cases day <;> decide
  have hwords : ∀ text ∈ ["FROM", "places", "UNNEST", "AS", "opening_period", "brand_id", "LEFT",
      "JOIN", "brands", "ON"], Reference.ofToken? (word text) = none := by decide
  have hids : Reference.ofToken? (word "places.brand_ids") = some (.table "places") := by
    decide
  have hid : Reference.ofToken? (word "brands.id") = some (.table "brands") := by decide
  simp only [List.forall_mem_cons, List.not_mem_nil, false_imp_iff, implies_true, and_true]
    at hwords
  cases hday : s.hoursOn <;> cases htable : s.brands <;>
    simp [Source.tokens, hday, htable, hhours, hwords, brandsTokens, unnestTokens, hids, hid]
      at h ⊢ <;> tauto

/-- What the columns and the grouping of a counting statement refer to. -/
theorem references_counted {counted : Counted} {ref : Reference}
    (h : ref ∈ references (Statement.selectTokens counted ++ counted.groupingTokens)) :
    ref = .table "places" ∨ ref = .table "brands" ∧ counted = .perBrand := by
  have hwords : ∀ text ∈ ["SELECT", "WITH", "AGGREGATION_THRESHOLD", "COUNT", "COUNTIF", "AS",
      "total_count", "count", "region_name", "GROUP", "BY", "ORDER", "DESC"],
      Reference.ofToken? (word text) = none := by decide
  simp only [List.forall_mem_cons, List.not_mem_nil, false_imp_iff, implies_true, and_true]
    at hwords
  rw [references_append, Statement.selectTokens, references_append,
    references_intercalate (by simp)] at h
  cases counted with
  | total =>
    simp [Counted.columnTokens, Counted.totalColumnTokens, Counted.groupingTokens, hwords] at h
  | perType types =>
    simp [Counted.columnTokens, Counted.totalColumnTokens, Counted.typeColumnTokens,
      Counted.groupingTokens, references_typeIn, hwords] at h
    exact .inl h.2
  | perBrand =>
    have hname : Reference.ofToken? (word "brands.name") = some (.table "brands") := by
      decide
    have hid : Reference.ofToken? (word "places.id") = some (.table "places") := by
      decide
    simp [Counted.columnTokens, Counted.groupingTokens, hwords, hname, hid] at h
    tauto
  | perRegion field =>
    simp [Counted.columnTokens, Counted.groupingTokens, hwords] at h
    exact .inl h

theorem references_cells {resolution : Nat} {ref : Reference} (h : ref ∈ references
    (Statement.cellTokens resolution ++ Statement.cellGroupingTokens)) :
    ref = .table "places" := by
  have hwords : ∀ text ∈ ["SELECT", "ARRAY_AGG", "h3_index", "AS", "indices", "place_count",
      "counts", "FROM", "COUNT", "GROUP", "BY", "WHERE", "IS", "NOT", "NULL"],
      Reference.ofToken? (word text) = none := by decide
  have hpoint : Reference.ofToken? (word "places.point") = some (.table "places") := by
    decide
  simp only [List.forall_mem_cons, List.not_mem_nil, false_imp_iff, implies_true, and_true]
    at hwords
  simpa [Statement.cellTokens, Statement.cellGroupingTokens, hwords, hpoint] using h

/-- A preamble refers to the variable that it declares. -/
theorem references_preamble {preamble : Option Preamble}
    (h : ∀ p ∈ preamble, p.isVerbatim = false) {ref : Reference}
    (href : ref ∈ references ((preamble.map Preamble.tokens).getD [])) :
    ∃ name wkt, ref = .script name ∧
      (preamble.map Preamble.tokens).getD [] = declarationTokens name wkt := by
  have hwords : ∀ text ∈ ["DECLARE", "GEOGRAPHY", "SET", "ST_GEOGFROMTEXT"],
      Reference.ofToken? (word text) = none := by decide
  have hscript : ∀ text ∈ Reference.scriptNames,
      Reference.ofToken? (word text) = some (.script text) := by decide
  simp only [Reference.scriptNames, List.forall_mem_cons, List.not_mem_nil, false_imp_iff,
    implies_true, and_true] at hwords hscript
  cases preamble with
  | none => simp at href
  | some p =>
    have hp := h p rfl
    cases p with
    | verbatim text => cases hp
    | searchArea wkt =>
      refine ⟨"search_area", wkt, ?_, rfl⟩
      simpa [Preamble.tokens, declarationTokens, hwords, hscript] using href
    | route wkt =>
      refine ⟨"route", wkt, ?_, rfl⟩
      simpa [Preamble.tokens, declarationTokens, hwords, hscript] using href

/-- A function call consists of literals, numbers, the name of the function and
    these words. -/
theorem forall_mem_function {R : Type} [Coordinate R] {P : Token → Prop}
    (hliteral : ∀ q text, P (.literal q text)) (hsymbol : ∀ c, P (symbol c))
    (hquoted : ∀ name, P (quoted name)) (hnumeric : ∀ t : Token, t.isNumeric = true → P t)
    (hword : ∀ text ∈ ["SELECT", "FROM", "JSON_OBJECT", "ST_GEOGPOINT", "TRUE"], P (word text))
    (hrender : ∀ x : R, IsNumberText (Coordinate.render x)) (dataset : String) (center : Point R)
    (meters resolution : Nat) (filters : FunctionSelection) :
    ∀ t ∈ (Statement.function dataset center meters resolution filters).tokens, P t := by
  simp only [List.forall_mem_cons, List.not_mem_nil, false_imp_iff, implies_true, and_true]
    at hword
  have hnumber {text : String} (h : IsNumberText text) : ∀ t ∈ codeTokens text, P t :=
    fun t ht => hnumeric t (h.isNumeric_of_mem ht)
  have hcomma : ∀ t ∈ [symbol ','], P t := by simpa using hsymbol ','
  have hlist (q : Sql.Quote) (texts : List String) : ∀ t ∈ listTokens q texts, P t := by
    refine Sql.forall_mem_intercalate hcomma fun ts hts => ?_
    obtain ⟨text, -, rfl⟩ := List.mem_map.mp hts
    simpa using hliteral q text
  have hentry (key : String) {value : List Token} (h : ∀ t ∈ value, P t) :
      ∀ t ∈ FunctionSelection.entryTokens key value, P t :=
    List.forall_mem_append.mpr ⟨by simpa using ⟨hliteral _ _, hsymbol _⟩, h⟩
  have hpoint : ∀ t ∈ pointTokens center, P t := by
    simp only [pointTokens, List.forall_mem_append, List.forall_mem_cons, List.not_mem_nil,
      false_imp_iff, implies_true, and_true]
    exact ⟨⟨⟨⟨⟨hword.2.2.2.1, hsymbol _⟩, hnumber (hrender _)⟩, hsymbol _⟩, hnumber (hrender _)⟩,
      hsymbol _⟩
  have hbracketed {items : List Token} (h : ∀ t ∈ items, P t) :
      ∀ t ∈ [symbol '['] ++ items ++ [symbol ']'], P t := by
    simpa [or_imp, forall_and, hsymbol] using h
  have hfilters : ∀ ts ∈ filters.tokens, ∀ t ∈ ts, P t := by
    simp only [FunctionSelection.tokens, List.forall_mem_append, Option.mem_toList,
      Option.map_eq_some_iff, forall_exists_index, and_imp, forall_apply_eq_imp_iff₂, List.mem_map]
    refine ⟨⟨⟨⟨fun status _ => hentry _ (hbracketed ?_), ?_⟩, fun x _ => hentry _ ?_⟩,
      fun x _ => hentry _ ?_⟩, fun name _ => hentry _ ?_⟩
    · simpa using hliteral _ _
    · split
      · simp
      · exact List.forall_mem_singleton.mpr (hentry _ (hbracketed (hlist _ _)))
    · exact hnumber (isNumberText_plainNumber x)
    · exact hnumber (isNumberText_plainNumber x)
    · simpa using hword.2.2.2.2
  have harguments : ∀ ts ∈ Statement.argumentTokens center meters resolution filters,
      ∀ t ∈ ts, P t := by
    refine List.forall_mem_append.mpr ⟨?_, hfilters⟩
    have hnat (n : Nat) : ∀ t ∈ [word n.repr], P t := by
      simpa using hnumeric _ (isNumeric_natRepr n)
    simpa using ⟨hentry _ hpoint, hentry _ (hnat meters), hentry _ (hnat resolution)⟩
  have hjoined := Sql.forall_mem_intercalate hcomma harguments
  simp only [Statement.tokens, List.forall_mem_append, List.forall_mem_cons, List.not_mem_nil,
    false_imp_iff, implies_true, and_true]
  exact ⟨⟨⟨hword.1, hsymbol _, hword.2.1, hquoted _, hsymbol _, hword.2.2.1, hsymbol _⟩, hjoined⟩,
    hsymbol _, hsymbol _⟩

/-! ## Introductions -/

namespace Statement

variable {R : Type} [Coordinate R] {ts : List Token} {preamble : Option Preamble}
  {source : Source} {conditions : List (Condition R)}

/-- The source introduces the places. -/
theorem HasClauses.introduces_places (h : HasClauses ts preamble source conditions) :
    Introduces ts (.table "places") := by
  refine .inl ⟨source.places, [word "FROM"], ?_⟩
  rw [h.fromPart_eq, Source.tokens, List.append_assoc]
  exact ⟨_, rfl⟩

/-- The tokens that introduce the brands. -/
theorem HasClauses.joins_brands (h : HasClauses ts preamble source conditions) {table : String}
    (htable : source.brands = some table) :
    [word "LEFT", word "JOIN", quoted table, word "brands"] <:+: Sql.fromPart ts := by
  refine ⟨[word "FROM", quoted source.places, word "places"] ++
    ((source.hoursOn.map fun day => symbol ',' ::
      unnestTokens ("places.regular_opening_hours." ++ day.name) "opening_period").getD []) ++
    symbol ',' :: unnestTokens "places.brand_ids" "brand_id",
    [word "ON", word "brand_id", symbol '=', word "brands.id"], ?_⟩
  rw [h.fromPart_eq, Source.tokens, htable]
  simp [brandsTokens]

/-- The tokens that introduce the opening hours. -/
theorem HasClauses.unnests_hours (h : HasClauses ts preamble source conditions) {day : Weekday}
    (hday : source.hoursOn = some day) :
    unnestTokens ("places.regular_opening_hours." ++ day.name) "opening_period" <:+:
      Sql.fromPart ts := by
  refine ⟨[word "FROM", quoted source.places, word "places", symbol ','],
    (source.brands.map brandsTokens).getD [], ?_⟩
  rw [h.fromPart_eq, Source.tokens, hday]
  simp

/-- A source without hours on a day does not name them. -/
theorem HasClauses.hoursOn_ne_none (h : HasClauses ts preamble source conditions) {path : String}
    (hpath : unnestTokens path "opening_period" <:+: Sql.fromPart ts) : source.hoursOn ≠ none := by
  intro hnone
  have hmem : word "opening_period" ∈ Sql.fromPart ts := hpath.subset (by simp [unnestTokens])
  rw [h.fromPart_eq, Source.tokens, hnone] at hmem
  cases htable : source.brands <;> simp [htable, brandsTokens, unnestTokens] at hmem

end Statement

/-- What the conditions of a selection refer to, and which filter makes them do so. -/
theorem Selection.uses_of_mem_conditionsOf {R : Type} {s : Selection} {filter : Filter}
    {c : Condition R} (hc : c ∈ s.conditionsOf filter) {ref : Reference} (href : ref ∈ c.uses) :
    ref = .table "places" ∨ (ref = .table "brands" ∧ s.usesBrands = true) ∨
      ref = .table "opening_period" ∧ s.effectiveHours.isSome := by
  cases filter with
  | placeTypes =>
    rw [conditionsOf, List.mem_ite_nil_left] at hc
    obtain ⟨-, hc⟩ := hc
    split at hc <;> obtain rfl := List.mem_singleton.mp hc
    · exact .inl (List.mem_singleton.mp href)
    · exact .inl (List.mem_singleton.mp href)
  | attributes =>
    obtain ⟨name, -, rfl⟩ := List.mem_map.mp hc
    exact .inl (List.mem_singleton.mp href)
  | rating =>
    rw [conditionsOf] at hc
    split at hc
    · obtain rfl := List.mem_singleton.mp hc
      exact .inl (List.mem_singleton.mp href)
    · obtain rfl := List.mem_singleton.mp hc
      exact .inl (List.mem_singleton.mp href)
    · obtain rfl := List.mem_singleton.mp hc
      exact .inl (List.mem_singleton.mp href)
    · cases hc
  | status =>
    obtain ⟨status, -, rfl⟩ := List.mem_map.mp hc
    exact .inl (List.mem_singleton.mp href)
  | brandNames =>
    rw [conditionsOf, List.mem_ite_nil_left] at hc
    obtain ⟨hne, hc⟩ := hc
    obtain rfl := List.mem_singleton.mp hc
    exact .inr (.inl ⟨List.mem_singleton.mp href, by simp [usesBrands, hne]⟩)
  | brandCategory =>
    rw [conditionsOf] at hc
    split at hc
    · next category hcategory =>
      rw [List.mem_ite_nil_left] at hc
      obtain rfl := List.mem_singleton.mp hc.2
      exact .inr (.inl ⟨List.mem_singleton.mp href, by simp [usesBrands, hcategory]⟩)
    · cases hc
  | hours =>
    rw [conditionsOf] at hc
    split at hc
    · next w hw =>
      rw [List.mem_ite_nil_left] at hc
      obtain ⟨hset, hc⟩ := hc
      obtain rfl := List.mem_singleton.mp hc
      have heffective : w.isEffective = true := by
        rw [OpeningWindow.isEffective]
        cases hstart : w.start <;> cases hfinish : w.finish <;> simp_all
      refine .inr (.inr ⟨List.mem_singleton.mp href, ?_⟩)
      simp [effectiveHours, hw, Option.filter, heffective]
    · cases hc

/-- An effective window has its condition, which names the opening hours. -/
theorem Selection.references_hours {R : Type} [Coordinate R] {s : Selection} {w : OpeningWindow}
    (h : s.effectiveHours = some w) :
    (.hours w.start w.finish : Condition R) ∈ s.conditionsOf .hours ∧
      .table "opening_period" ∈ references (Condition.hours w.start w.finish : Condition R).tokens := by
  obtain ⟨hw, heffective⟩ := Option.filter_eq_some_iff.mp h
  have hstart : Reference.ofToken? (word "opening_period.start_time") =
      some (.table "opening_period") := by decide
  have hfinish : Reference.ofToken? (word "opening_period.end_time") =
      some (.table "opening_period") := by decide
  have hand : Reference.ofToken? (word "AND") = none := by decide
  obtain ⟨day, start, finish⟩ := w
  cases start <;> cases finish <;>
    simp_all [OpeningWindow.isEffective, conditionsOf, Condition.tokens, PlaceSearch.references_hours,
      List.intercalate_cons_cons]

namespace Request

/-- What the conditions of a request refer to, and what of the request makes them do so. -/
theorem uses_of_mem_predicates {R : Type} [Coordinate R] {r : Request R}
    (hr : r.scope.IsResolved) {c : Condition R} (hc : c ∈ r.predicates) {ref : Reference}
    (href : ref ∈ c.uses) :
    ref = .table "places" ∨
    (ref = .table "brands" ∧ r.selection.usesBrands = true) ∨
    (ref = .table "opening_period" ∧ r.selection.effectiveHours.isSome) ∨
    ∃ p ∈ r.scope.preamble, ∃ name wkt, ref = .script name ∧
      p.tokens = declarationTokens name wkt := by
  rcases List.mem_append.mp hc with hc | hc
  · rw [Option.mem_toList] at hc
    rcases hr.cases with ⟨_, _, hscope⟩ | ⟨_, hscope⟩ | ⟨p, hscope⟩ | ⟨_, _, _, -, hscope⟩ |
        ⟨route, _, hscope⟩ <;>
      rw [hscope] at hc ⊢ <;> cases hc
    · exact .inl (List.mem_singleton.mp href)
    · rcases List.mem_cons.mp href with rfl | href
      · exact .inr (.inr (.inr ⟨_, rfl, _, _, rfl, rfl⟩))
      · exact .inl (List.mem_singleton.mp href)
    · exact .inl (List.mem_singleton.mp href)
    · rcases List.mem_cons.mp href with rfl | href
      · exact .inr (.inr (.inr ⟨_, rfl, _, _, rfl, rfl⟩))
      · exact .inl (List.mem_singleton.mp href)
  · obtain ⟨filter, -, hc⟩ := List.mem_flatMap.mp hc
    rcases Selection.uses_of_mem_conditionsOf hc href with h | h | h
    · exact .inl h
    · exact .inr (.inl h)
    · exact .inr (.inr (.inl h))

end Request

namespace Statement

variable {R : Type} [Coordinate R]

/-- What a statement with clauses refers to, and which of its parts does so. -/
theorem references_tokens (hrender : ∀ x : R, IsNumberText (Coordinate.render x))
    {preamble : Option Preamble} {source : Source} {conditions : List (Condition R)}
    (hpreamble : ∀ p ∈ preamble, p.isVerbatim = false)
    (hconditions : ∀ c ∈ conditions, c.isVerbatim = false) {s : Statement R}
    (hs : (∃ counted, s = .count preamble counted source conditions) ∨
      ∃ resolution, s = .cells preamble resolution source conditions)
    {ref : Reference} (href : ref ∈ references s.tokens) :
    ref = .table "places" ∨
    (ref = .table "brands" ∧ (source.brands.isSome ∨ s.shape = .perBrand)) ∨
    (∃ name wkt, ref = .script name ∧
      (preamble.map Preamble.tokens).getD [] = declarationTokens name wkt) ∨
    ∃ c ∈ conditions, ref ∈ c.uses := by
  rcases hs with ⟨counted, rfl⟩ | ⟨resolution, rfl⟩
  · have hcounted : ref ∈ references (selectTokens counted ++ counted.groupingTokens) →
        ref = .table "places" ∨ ref = .table "brands" ∧ (source.brands.isSome ∨
          (count preamble counted source conditions).shape = .perBrand) := by
      intro h
      refine (references_counted h).imp_right fun h => ⟨h.1, .inr ?_⟩
      rw [h.2]
      rfl
    simp only [tokens, references_append, List.mem_append] at href hcounted
    rcases href with (((href | href) | href) | href) | href
    · exact .inr (.inr (.inl (references_preamble hpreamble href)))
    · exact (hcounted (.inl href)).imp_right .inl
    · exact (references_source href).imp_right fun h => .inl ⟨h.1, .inl h.2⟩
    · exact .inr (.inr (.inr (references_whereTokens hrender hconditions href)))
    · exact (hcounted (.inr href)).imp_right .inl
  · have hcells : ref ∈ references (cellTokens resolution ++ cellGroupingTokens) →
        ref = .table "places" := references_cells
    simp only [tokens, references_append, List.mem_append] at href hcells
    rcases href with (((href | href) | href) | href) | href
    · exact .inr (.inr (.inl (references_preamble hpreamble href)))
    · exact .inl (hcells (.inl href))
    · exact (references_source href).imp_right fun h => .inl ⟨h.1, .inl h.2⟩
    · exact .inr (.inr (.inr (references_whereTokens hrender hconditions href)))
    · exact .inl (hcells (.inr href))

/-- A function call refers to nothing and unnests nothing. -/
theorem references_function (hrender : ∀ x : R, IsNumberText (Coordinate.render x))
    (dataset : String) (center : Point R) (meters resolution : Nat) (filters : FunctionSelection) :
    references (function dataset center meters resolution filters).tokens = [] ∧
      word "opening_period" ∉ (function dataset center meters resolution filters).tokens := by
  refine ⟨references_eq_nil ?_, fun hmem => ?_⟩
  · exact forall_mem_function ofToken?_literal ofToken?_symbol ofToken?_quoted
      (fun _ => ofToken?_of_isNumeric) (by decide) hrender dataset center meters resolution
      filters
  · refine forall_mem_function (P := (· ≠ word "opening_period")) (by simp) (by simp) (by simp) ?_
      (by decide) hrender dataset center meters resolution filters _ hmem rfl
    rintro t ht rfl
    revert ht
    decide

end Statement

namespace Request

/-- With one row for each region there is a region, and its column is grouped by. -/
theorem region_of_perRegion {R : Type} {r : Request R} (h : r.features.shape = .perRegion) :
    ∃ region, r.scope.region = some region ∧ r.regionField = region.column.field.name := by
  have hmultiple := Features.multipleRegions_of_shape_eq_perRegion h
  unfold features at hmultiple
  unfold regionField
  cases hregion : r.scope.region with
  | none => simp [hregion] at hmultiple
  | some region => exact ⟨region, rfl, rfl⟩

/-- Every reference of a request but a function call: to the places, to the brands if they are
    used, to the opening hours if they are restricted, or to the declared variable. -/
theorem references_statement {territory : Territory} {r : Request Degrees}
    (hr : r.scope.IsResolved) (hshape : r.features.shape ≠ .function) {ref : Reference}
    (href : ref ∈ references (r.statement territory).tokens) :
    ref = .table "places" ∨
    (ref = .table "brands" ∧ r.selection.usesBrands = true) ∨
    (ref = .table "opening_period" ∧ r.selection.effectiveHours.isSome) ∨
    ∃ name wkt, ref = .script name ∧
      (r.scope.preamble.map Preamble.tokens).getD [] = declarationTokens name wkt := by
  have hconditions : ∀ c ∈ r.predicates, c.isVerbatim = false :=
    fun c hc => (isWritten_of_mem_predicates hr hc).isVerbatim_eq
  have hstatement : (∃ counted, r.statement territory =
        .count r.scope.preamble counted (r.source territory) r.predicates) ∨
      ∃ resolution, r.statement territory =
        .cells r.scope.preamble resolution (r.source territory) r.predicates :=
    (statement_eq territory hshape).imp_right fun h => ⟨r.resolution, h⟩
  rcases Statement.references_tokens (fun x => isNumberText_plainNumber x.value)
      hr.preamble_isVerbatim hconditions hstatement href with h | ⟨h, hbrands⟩ | h | ⟨c, hc, h⟩
  · exact .inl h
  · refine .inr (.inl ⟨h, ?_⟩)
    rcases hbrands with hbrands | hbrands
    · revert hbrands
      unfold source
      cases r.selection.usesBrands <;> simp
    · rw [shape_statement] at hbrands
      exact Features.brands_of_shape_eq_perBrand hbrands
  · exact .inr (.inr (.inr h))
  · rcases uses_of_mem_predicates hr hc h with h | h | h | ⟨p, hp, name, wkt, h, htokens⟩
    · exact .inl h
    · exact .inr (.inl h)
    · exact .inr (.inr (.inl h))
    · refine .inr (.inr (.inr ⟨name, wkt, h, ?_⟩))
      rw [Option.mem_def.mp hp]
      exact htokens

/-- The tokens refer to nothing that they do not introduce, and introduce the opening
    hours only to refer to them. -/
structure IsSelfContained (r : Request Degrees) (territory : Territory) (ts : List Token) :
    Prop where
  introduces : ∀ ref ∈ references ts, Introduces ts ref
  /-- The alias of the brands stands for the joined table of brands. -/
  joins_brands : .table "brands" ∈ references ts →
    [word "LEFT", word "JOIN", quoted territory.brandsTable, word "brands"] <:+: Sql.fromPart ts
  /-- The alias of the opening hours stands for the hours of one day. -/
  unnests_hours : .table "opening_period" ∈ references ts → ∃ day : Weekday,
    unnestTokens ("places.regular_opening_hours." ++ day.name) "opening_period" <:+:
      Sql.fromPart ts
  restricts_hours : ∀ path, unnestTokens path "opening_period" <:+: Sql.fromPart ts →
    .table "opening_period" ∈ references (Sql.wherePart ts)
  /-- With one row for each region, the column of the searched regions is selected and
      grouped by. -/
  groups_regions : (r.statement territory).shape = .perRegion →
    ∃ region, r.scope.region = some region ∧
      Sql.selectedColumns ts = (Counted.perRegion region.column.field.name).columnTokens ∧
      [word "GROUP", word "BY", word "region_name"] <:+: ts

theorem isSelfContained_function {territory : Territory} {r : Request Degrees}
    (h : r.features.shape = .function) :
    r.IsSelfContained territory (r.statement territory).tokens := by
  have hstatement : r.statement territory = .function territory.functionDataset r.scope.center
      r.meters r.resolution r.selection.forFunction := by
    unfold statement
    rw [h]
  obtain ⟨hnone, hperiod⟩ := Statement.references_function
    (fun x : Degrees => isNumberText_plainNumber x.value) territory.functionDataset r.scope.center
    r.meters r.resolution r.selection.forFunction
  rw [← hstatement] at hnone hperiod
  refine ⟨?_, ?_, ?_, fun path hpath => ?_, fun hregion => ?_⟩
  · simp [hnone]
  · simp [hnone]
  · simp [hnone]
  · have hmem : word "opening_period" ∈ Sql.fromPart (r.statement territory).tokens :=
      hpath.subset (by simp [unnestTokens])
    exact absurd (Sql.mem_of_mem_fromPart hmem) hperiod
  · rw [shape_statement, h] at hregion
    cases hregion

theorem isSelfContained_of_clauses {territory : Territory} {r : Request Degrees}
    (hr : r.scope.IsResolved) (hlegible : (r.statement territory).IsLegible)
    (hshape : r.features.shape ≠ .function)
    (hclauses : Statement.HasClauses (r.statement territory).tokens r.scope.preamble
      (r.source territory) r.predicates) :
    r.IsSelfContained territory (r.statement territory).tokens := by
  have hcases : ∀ ref ∈ references (r.statement territory).tokens, _ :=
    fun _ href => references_statement hr hshape href
  have hbrands : .table "brands" ∈ references (r.statement territory).tokens →
      [word "LEFT", word "JOIN", quoted territory.brandsTable, word "brands"] <:+:
        Sql.fromPart (r.statement territory).tokens := by
    intro href
    have hused : r.selection.usesBrands = true := by
      rcases hcases _ href with h | h | h | ⟨_, _, h, -⟩
      · simp at h
      · exact h.2
      · simp at h
      · cases h
    exact hclauses.joins_brands (by simp [source, hused])
  have hhours : .table "opening_period" ∈ references (r.statement territory).tokens →
      ∃ day : Weekday,
        unnestTokens ("places.regular_opening_hours." ++ day.name) "opening_period" <:+:
          Sql.fromPart (r.statement territory).tokens := by
    intro href
    have hset : r.selection.effectiveHours.isSome := by
      rcases hcases _ href with h | h | h | ⟨_, _, h, -⟩
      · simp at h
      · simp at h
      · exact h.2
      · cases h
    obtain ⟨w, hw⟩ := Option.isSome_iff_exists.mp hset
    exact ⟨w.day, hclauses.unnests_hours (by simp [source, hw])⟩
  refine ⟨fun ref href => ?_, hbrands, hhours, fun path hpath => ?_, fun hregion => ?_⟩
  · rcases hcases ref href with rfl | ⟨rfl, -⟩ | ⟨rfl, -⟩ | ⟨name, wkt, rfl, htokens⟩
    · exact hclauses.introduces_places
    · have hjoin := hbrands href
      exact .inl ⟨_, (List.suffix_append [word "LEFT", word "JOIN"] _).isInfix.trans hjoin⟩
    · obtain ⟨day, hday⟩ := hhours href
      exact .inr ⟨_, hday⟩
    · exact ⟨wkt, htokens ▸ hclauses.starts⟩
  · obtain ⟨day, hday⟩ := Option.ne_none_iff_exists'.mp (hclauses.hoursOn_ne_none hpath)
    obtain ⟨w, hw, -⟩ := Option.map_eq_some_iff.mp hday
    have hmem : (.hours w.start w.finish : Condition Degrees) ∈ r.predicates :=
      List.mem_append_right _ (List.mem_flatMap.mpr
        ⟨.hours, by decide, (Selection.references_hours hw).1⟩)
    rw [hclauses.wherePart_eq]
    exact references_subset_whereTokens hmem (Selection.references_hours hw).2
  · rw [shape_statement] at hregion
    obtain ⟨region, hscope, hfield⟩ := region_of_perRegion hregion
    have hstatement : r.statement territory = .count r.scope.preamble
        (.perRegion region.column.field.name) (r.source territory) r.conditions := by
      unfold statement
      rw [hregion, ← hfield]
    rw [hstatement] at hlegible ⊢
    refine ⟨region, hscope, Statement.selectedColumns_count hlegible, ?_⟩
    exact List.IsInfix.trans ⟨[], _, rfl⟩ (List.suffix_append _ _).isInfix

/-- A statement introduces whatever it refers to. -/
theorem isSelfContained_statement {edition : Edition} {label : String} {territory : Territory}
    (hterritory : Territory.lookup? edition label = some territory) {r : Request Degrees}
    (hr : r.scope.IsResolved) :
    ∃ ts, Sql.tokenize (r.statement territory).render = some ts ∧
      r.IsSelfContained territory ts := by
  refine ⟨_, tokenize_statement hterritory hr, ?_⟩
  by_cases hshape : r.features.shape = .function
  · exact isSelfContained_function hshape
  · exact isSelfContained_of_clauses hr (isLegible_statement hterritory hr) hshape
      (hasClauses_statement hterritory hr hshape)

/-- Texts that look like references are none, and an empty brand category joins the brands
    as well. -/
theorem isSelfContained_hostile :
    let r : Request Degrees := { routeSearch "LINESTRING(13 52, 14 52)" [] with
      selection := { Selection.fresh with
        placeTypes := ["search_area", "opening_period.start_time"]
        brandCategory := some ""
        hours := some ⟨.monday, some ⟨9, 0, 0⟩, none⟩ } }
    Territory.lookup? .sample "Berlin, Germany" = some berlin ∧ r.scope.IsResolved ∧
      (r.statement berlin).shape = .perBrand ∧
      ∃ ts, Sql.tokenize (r.statement berlin).render = some ts ∧ r.IsSelfContained berlin ts := by
  intro r
  have hresolved : r.scope.IsResolved := routeSearch_isResolved _ []
  exact ⟨lookup?_berlin, hresolved, shape_statement r berlin,
    isSelfContained_statement lookup?_berlin hresolved⟩

end Request

end PlaceSearch
