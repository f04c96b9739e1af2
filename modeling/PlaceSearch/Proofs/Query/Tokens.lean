-- SUMMARY: The tokens of the parts of statements, and those of names and numbers.
import PlaceSearch.Proofs.Query.Scan
import PlaceSearch.Proofs.Sql.Token

/-!
# Tokens of statements

Each part of a statement has its tokens: keywords, the columns and tables that
it names, and literals that hold the texts a user chose. Here they are listed,
part by part; that a reader of the text finds them is shown for names and numbers
first.
-/

namespace PlaceSearch

open Sql (Token Lexeme Reads Separates codeTokens listTokens)
open Sql.Token (word quoted symbol)

/-! ## Tokens of the parts -/

/-- Membership in the types of a place. -/
def typeInTokens (type : String) : List Token :=
  [.literal .single type, word "IN", word "UNNEST", symbol '(', word "places.types", symbol ')']

def RatingBound.tokens : RatingBound → List Token
  | .between min max =>
    [word "places.rating", word "BETWEEN"] ++ codeTokens (plainNumber min) ++ [word "AND"] ++
      codeTokens (plainNumber max)
  | .atLeast min => [word "places.rating", symbol '>', symbol '='] ++ codeTokens (plainNumber min)
  | .atMost max => [word "places.rating", symbol '<', symbol '='] ++ codeTokens (plainNumber max)

/-- A bound of the opening hours, compared with a time. -/
def hoursTokens (column : String) (relation : Char) (t : ClockTime) : List Token :=
  [word column, symbol relation, symbol '=', word "TIME", .literal .single t.render]

/-- An array under a name of its own. -/
def unnestTokens (path name : String) : List Token :=
  [word "UNNEST", symbol '(', word path, symbol ')', word "AS", word name]

/-- The table of brands, joined to the brands of a place. -/
def brandsTokens (table : String) : List Token :=
  symbol ',' :: unnestTokens "places.brand_ids" "brand_id" ++
    [word "LEFT", word "JOIN", quoted table, word "brands", word "ON", word "brand_id",
      symbol '=', word "brands.id"]

def Source.tokens (s : Source) : List Token :=
  [word "FROM", quoted s.places, word "places"] ++
    ((s.hoursOn.map fun day => symbol ',' ::
      unnestTokens ("places.regular_opening_hours." ++ day.name) "opening_period").getD []) ++
    ((s.brands.map brandsTokens).getD [])

/-- The declaration of a geography variable. -/
def declarationTokens (variableName wkt : String) : List Token :=
  [word "DECLARE", word variableName, word "GEOGRAPHY", symbol ';', word "SET", word variableName,
    symbol '=', word "ST_GEOGFROMTEXT", symbol '(', .literal .triple wkt, symbol ')', symbol ';']

def Preamble.tokens : Preamble → List Token
  | .verbatim text => codeTokens text
  | .searchArea wkt => declarationTokens "search_area" wkt
  | .route wkt => declarationTokens "route" wkt

namespace Counted

/-- The name of the column of a place type. -/
def columnName (type : String) : String := columnStem type ++ "_count"

def typeColumnTokens (type : String) : List Token :=
  [word "COUNTIF", symbol '('] ++ typeInTokens type ++
    [symbol ')', word "AS", word (columnName type)]

/-- The column that counts all places. -/
def totalColumnTokens : List Token :=
  [word "COUNT", symbol '(', symbol '*', symbol ')', word "AS", word "total_count"]

/-- The selected columns, each by itself. -/
def columnTokens : Counted → List (List Token)
  | .total => [totalColumnTokens]
  | .perType types => types.map typeColumnTokens ++ [totalColumnTokens]
  | .perBrand => [[word "brands.name"],
      [word "COUNT", symbol '(', word "places.id", symbol ')', word "AS", word "count"]]
  | .perRegion field => [[word ("places." ++ field), word "AS", word "region_name"],
      [word "COUNT", symbol '(', symbol '*', symbol ')', word "AS", word "count"]]

def groupingTokens : Counted → List Token
  | .total | .perType _ => []
  | .perBrand => [word "GROUP", word "BY", word "brands.name", word "ORDER", word "BY",
      word "count", word "DESC"]
  | .perRegion _ => [word "GROUP", word "BY", word "region_name", word "ORDER", word "BY",
      word "count", word "DESC"]

end Counted

/-- An entry of the argument of the density function. -/
def FunctionSelection.entryTokens (key : String) (value : List Token) : List Token :=
  [.literal .single key, symbol ','] ++ value

/-- The entries of the argument that a selection adds. -/
def FunctionSelection.tokens (s : FunctionSelection) : List (List Token) :=
  (s.status.map fun status => entryTokens "business_status"
      ([symbol '['] ++ [.literal .single status.render] ++ [symbol ']'])).toList ++
    (if s.placeTypes.isEmpty then []
      else [entryTokens (if s.primaryTypeOnly then "primary_type" else "types")
        ([symbol '['] ++ listTokens .double s.placeTypes ++ [symbol ']'])]) ++
    (s.rating.finite.min.map fun x =>
      entryTokens "min_rating" (codeTokens (plainNumber x))).toList ++
    (s.rating.finite.max.map fun x =>
      entryTokens "max_rating" (codeTokens (plainNumber x))).toList ++
    s.attributes.map fun name => entryTokens name.name [word "TRUE"]

section

variable {R : Type} [Coordinate R]

/-- A point as an expression. -/
def pointTokens (p : Point R) : List Token :=
  [word "ST_GEOGPOINT", symbol '('] ++ codeTokens (Coordinate.render p.lng) ++ [symbol ','] ++
    codeTokens (Coordinate.render p.lat) ++ [symbol ')']

def Condition.tokens : Condition R → List Token
  | .verbatim text => codeTokens text
  | .near center meters =>
    [word "ST_DWITHIN", symbol '('] ++ pointTokens center ++
      [symbol ',', word "places.point", symbol ',', word meters.repr, symbol ')']
  | .insideArea =>
    [word "ST_CONTAINS", symbol '(', word "search_area", symbol ',', word "places.point",
      symbol ')']
  | .alongRoute meters =>
    [word "ST_DWITHIN", symbol '(', word "route", symbol ',', word "places.point", symbol ',',
      word meters.repr, symbol ')']
  | .region column names =>
    match column.type with
    | .string =>
      [word ("places." ++ column.field.name), word "IN", symbol '('] ++
        listTokens .single names ++ [symbol ')']
    | .array =>
      [word "EXISTS", symbol '(', word "SELECT", word "1", word "FROM"] ++
        unnestTokens ("places." ++ column.field.name) "name" ++
        [word "WHERE", word "name", word "IN", symbol '('] ++ listTokens .single names ++
        [symbol ')', symbol ')']
  | .primaryType types =>
    [word "places.primary_type", word "IN", symbol '('] ++ listTokens .single types ++ [symbol ')']
  | .anyType types =>
    let alternatives := [word "OR"].intercalate (types.map typeInTokens)
    if 1 < types.length then [symbol '('] ++ alternatives ++ [symbol ')'] else alternatives
  | .attribute name => [word ("places." ++ name.name), symbol '=', word "TRUE"]
  | .rating bound => bound.tokens
  | .status s => [word "places.business_status", symbol '=', .literal .single s.render]
  | .brandName names =>
    [word "brands.name", word "IN", symbol '('] ++ listTokens .double names ++ [symbol ')']
  | .brandCategory category => [word "brands.category", symbol '=', .literal .double category]
  | .hours start finish =>
    [word "AND"].intercalate
      ((start.map (hoursTokens "opening_period.start_time" '<')).toList ++
        (finish.map (hoursTokens "opening_period.end_time" '>')).toList)

namespace Statement

/-- The conditions as a `WHERE` clause. -/
def whereTokens (conditions : List (Condition R)) : List Token :=
  if conditions.isEmpty then []
  else word "WHERE" :: [word "AND"].intercalate (conditions.map Condition.tokens)

omit [Coordinate R] in
/-- What a counting statement selects. -/
def selectTokens (counted : Counted) : List Token :=
  [word "SELECT", word "WITH", word "AGGREGATION_THRESHOLD"] ++
    [symbol ','].intercalate counted.columnTokens

omit [Coordinate R] in
/-- What a cell statement says between its preamble and its source. -/
def cellTokens (resolution : Nat) : List Token :=
  [word "SELECT", word "ARRAY_AGG", symbol '(', word "h3_index", symbol ')', word "AS",
    word "indices", symbol ',', word "ARRAY_AGG", symbol '(', word "place_count", symbol ')',
    word "AS", word "counts", word "FROM", symbol '(', word "SELECT",
    quoted "carto-os.carto.H3_FROMGEOGPOINT", symbol '(', word "places.point", symbol ',',
    word resolution.repr, symbol ')', word "AS", word "h3_index", symbol ',', word "COUNT",
    symbol '(', symbol '*', symbol ')', word "AS", word "place_count"]

omit [Coordinate R] in
/-- What a cell statement says behind its conditions. -/
def cellGroupingTokens : List Token :=
  [word "GROUP", word "BY", word "h3_index", symbol ')', word "WHERE", word "h3_index", word "IS",
    word "NOT", word "NULL"]

/-- The argument of the density function. -/
def argumentTokens (center : Point R) (meters resolution : Nat) (filters : FunctionSelection) :
    List (List Token) :=
  [FunctionSelection.entryTokens "geography" (pointTokens center),
    FunctionSelection.entryTokens "geography_radius" [word meters.repr],
    FunctionSelection.entryTokens "h3_resolution" [word resolution.repr]] ++ filters.tokens

def tokens : Statement R → List Token
  | .count preamble counted source conditions =>
    (preamble.map Preamble.tokens).getD [] ++ selectTokens counted ++ source.tokens ++
      whereTokens conditions ++ counted.groupingTokens
  | .cells preamble resolution source conditions =>
    (preamble.map Preamble.tokens).getD [] ++ cellTokens resolution ++ source.tokens ++
      whereTokens conditions ++ cellGroupingTokens
  | .function dataset center meters resolution filters =>
    [word "SELECT", symbol '*', word "FROM", quoted (dataset ++ "." ++ densityFunction),
      symbol '(', word "JSON_OBJECT", symbol '('] ++
      [symbol ','].intercalate (argumentTokens center meters resolution filters) ++
      [symbol ')', symbol ')']

end Statement

end

/-! ## Names and numbers -/

theorem separates_close : Separates (Lexeme.ofString ")") [symbol ')'] := .spelled (by decide)

theorem separates_and : Separates (Lexeme.ofString " AND ") [word "AND"] := .spelled (by decide)

/-- A column of the places is one word. -/
theorem reads_placesColumn {field : String} (h : ∀ c ∈ field.toList, Sql.isNamePart c = true) :
    Reads (Lexeme.ofString ("places." ++ field)) [word ("places." ++ field)] := by
  refine .word (by simp) fun c hc => ?_
  rw [String.toList_append, List.mem_append] at hc
  rcases hc with hc | hc
  · have hplaces : "places.".toList.all Sql.isWordChar = true := by decide
    exact List.all_eq_true.mp hplaces c hc
  · exact Sql.isWordChar_of_isNamePart (h c hc)

/-- A column of a place type has a plain name. -/
theorem Counted.isNamePart_of_mem_columnName {type : String} {c : Char}
    (h : c ∈ (columnName type).toList) : Sql.isNamePart c = true := by
  have hcount : ∀ c ∈ "_count".toList, Sql.isNamePart c = true := List.all_eq_true.mp (by decide)
  rw [columnName, String.toList_append, List.mem_append] at h
  exact h.elim isNamePart_of_mem_columnStem (hcount c)

theorem reads_natRepr (n : Nat) : Reads (Lexeme.ofString n.repr) [word n.repr] := by
  refine .word (by simp) fun c hc => ?_
  simp [Sql.isWordChar, Sql.isNamePart, Char.isAlphanum, Sql.isDigit_of_mem_natRepr hc]

/-- A number: digits, a point and a minus sign, or the name of what is no finite number. -/
def IsNumberText (text : String) : Prop :=
  (∀ c ∈ text.toList, isNumeral c = true) ∨ text ∈ ["NaN", "inf", "-inf"]

theorem isNumberText_plainNumber (x : Float) : IsNumberText (plainNumber x) := by
  cases hx : Binary.ofFloat? x with
  | some b => exact .inl fun c hc => isNumeral_of_mem_plainNumber hx hc
  | none =>
    rw [plainNumber, hx]
    refine .inr ?_
    unfold nonFiniteText
    dsimp only
    split
    · decide
    · split <;> decide

theorem IsNumberText.bare {text : String} (h : IsNumberText text) : Sql.Bare text := by
  rcases h with h | h
  · exact fun c hc => isQuote_of_isNumeral (h c hc)
  · simp only [List.mem_cons, List.not_mem_nil, or_false] at h
    rcases h with rfl | rfl | rfl <;> decide

theorem IsNumberText.reads {text : String} (h : IsNumberText text) :
    Reads (Lexeme.ofString text) (codeTokens text) := by
  refine .code ?_
  rcases h with h | h
  · intro hmem
    have hnumeral := h '`' hmem
    revert hnumeral
    decide
  · simp only [List.mem_cons, List.not_mem_nil, or_false] at h
    rcases h with rfl | rfl | rfl <;> decide

theorem reads_plainNumber (x : Float) :
    Reads (Lexeme.ofString (plainNumber x)) (codeTokens (plainNumber x)) :=
  (isNumberText_plainNumber x).reads

/-- A part of a number. -/
def Sql.Token.isNumeric : Token → Bool
  | .word text => text.toList.all (fun c => c.isDigit || c == '.') || ["NaN", "inf"].contains text
  | .symbol c => c == '-'
  | _ => false

theorem isNumeric_natRepr (n : Nat) : (word n.repr).isNumeric = true := by
  rw [Token.isNumeric, Bool.or_eq_true, List.all_eq_true]
  refine .inl fun c hc => ?_
  rw [Sql.isDigit_of_mem_natRepr hc, Bool.true_or]

/-- Nothing or a positional number is pending. -/
def Sql.Pending.IsNumeric : Sql.Pending → Prop
  | .nothing => True
  | .word front => ∀ c ∈ front, (c.isDigit || c == '.') = true
  | .quoted _ => False

theorem isNumeric_ofList {front : List Char} (h : (Sql.Pending.word front).IsNumeric) :
    (word (String.ofList front)).isNumeric = true := by
  rw [Token.isNumeric, String.toList_ofList, List.all_eq_true.mpr h, Bool.true_or]

theorem Sql.Pending.IsNumeric.step {p : Sql.Pending} (hp : p.IsNumeric) {c : Char}
    (hc : isNumeral c = true) :
    (∀ t ∈ (Sql.step p (.char c)).1, t.isNumeric = true) ∧ (Sql.step p (.char c)).2.IsNumeric := by
  have hcases : (c.isDigit || c == '.') = true ∨ c = '-' := by
    simp only [isNumeral, Bool.or_eq_true, beq_iff_eq] at hc ⊢
    tauto
  rcases hcases with hdigit | rfl
  · have hword : Sql.isWordChar c = true := by
      simp only [Bool.or_eq_true, beq_iff_eq] at hdigit
      rcases hdigit with hdigit | rfl
      · simp [Sql.isWordChar, Sql.isNamePart, Char.isAlphanum, hdigit]
      · decide
    cases p with
    | nothing =>
      have hstep : Sql.step .nothing (.char c) = ([], .word [c]) := by
        rw [Sql.step, Sql.start, if_pos hword]
      rw [hstep]
      exact ⟨by simp, by simpa [IsNumeric] using hdigit⟩
    | word front =>
      have hstep : Sql.step (.word front) (.char c) = ([], .word (front ++ [c])) := by
        rw [Sql.step, Lexeme.wordChar?, if_pos hword]
      rw [hstep]
      refine ⟨by simp, fun d hd => ?_⟩
      rcases List.mem_append.mp hd with hd | hd
      · exact hp d hd
      · rwa [List.mem_singleton.mp hd]
    | quoted front => exact hp.elim
  · have hminus : (symbol '-').isNumeric = true := by decide
    cases p with
    | nothing =>
      have hstep : Sql.step .nothing (.char '-') = ([symbol '-'], Pending.nothing) := rfl
      rw [hstep]
      exact ⟨by simpa using hminus, trivial⟩
    | word front =>
      have hstep : Sql.step (.word front) (.char '-') =
          ([Token.word (String.ofList front), symbol '-'], Pending.nothing) := rfl
      rw [hstep]
      exact ⟨by simpa using ⟨isNumeric_ofList hp, hminus⟩, trivial⟩
    | quoted front => exact hp.elim

theorem Sql.Pending.IsNumeric.run {p : Sql.Pending} (hp : p.IsNumeric) {cs : List Char}
    (hcs : ∀ c ∈ cs, isNumeral c = true) :
    (∀ t ∈ Sql.emit p (cs.map .char), t.isNumeric = true) ∧
      (Sql.carry p (cs.map .char)).IsNumeric := by
  induction cs generalizing p with
  | nil => exact ⟨by simp [Sql.emit], hp⟩
  | cons c cs ih =>
    obtain ⟨hemit, hpending⟩ := hp.step (hcs c (List.mem_cons_self ..))
    obtain ⟨hrest, hcarry⟩ := ih hpending fun d hd => hcs d (List.mem_cons_of_mem _ hd)
    exact ⟨List.forall_mem_append.mpr ⟨hemit, hrest⟩, hcarry⟩

/-- A number is read as parts of a number. -/
theorem IsNumberText.isNumeric_of_mem {text : String} (h : IsNumberText text) {t : Token}
    (ht : t ∈ codeTokens text) : t.isNumeric = true := by
  rcases h with h | h
  · have hnothing : Sql.Pending.nothing.IsNumeric := trivial
    obtain ⟨hemit, hcarry⟩ := hnothing.run h
    rw [codeTokens, Sql.tokens?, Lexeme.ofString] at ht
    cases hpending : Sql.carry .nothing (text.toList.map .char) with
    | nothing =>
      rw [hpending] at ht
      exact hemit t (by simpa [Sql.Pending.finish?] using ht)
    | word front =>
      rw [hpending] at ht hcarry
      simp only [Sql.Pending.finish?, Option.map_some, Option.getD_some, List.mem_append,
        List.mem_singleton] at ht
      rcases ht with ht | rfl
      · exact hemit t ht
      · exact isNumeric_ofList hcarry
    | quoted front =>
      rw [hpending] at hcarry
      exact hcarry.elim
  · have hnames : ∀ name ∈ ["NaN", "inf", "-inf"], ∀ t ∈ codeTokens name,
        t.isNumeric = true := by decide +kernel
    exact hnames text h t ht

end PlaceSearch
