-- SUMMARY: A reader finds the preamble, the columns, the source and the conditions of a statement in its tokens.
import PlaceSearch.Proofs.Query.Reading

/-!
# Clauses

The clauses of a statement start with words of their own: `SELECT`, `FROM`,
`WHERE` and `GROUP`. A reader that looks for these words finds the clauses that
the statement was made from, since no name in a statement is one of them and what
a user chose is in literals.
-/

namespace PlaceSearch

open Sql (Token codeTokens listTokens)
open Sql.Token (word quoted symbol)

/-! ## Readers -/

namespace Sql

def Token.isQuoted : Token → Bool
  | .quoted _ => true
  | _ => false

/-- What is declared in front of the first `SELECT`. -/
def preamblePart (ts : List Token) : List Token := ts.takeWhile (· != .word "SELECT")

/-- The tokens from the first `FROM` on that has a table behind it. -/
def fromTable : List Token → List Token
  | [] => []
  | t :: rest =>
    if t = .word "FROM" ∧ rest.head?.any Token.isQuoted then t :: rest else fromTable rest

/-- A word behind the source of a statement. -/
def Token.endsSource (t : Token) : Bool := t == .word "WHERE" || t == .word "GROUP"

/-- The `FROM` clause over the places. -/
def fromPart (ts : List Token) : List Token := (fromTable ts).takeWhile fun t => !t.endsSource

/-- The `WHERE` clause over the places, empty if there is none. -/
def wherePart (ts : List Token) : List Token :=
  ((fromTable ts).dropWhile fun t => !t.endsSource).takeWhile (· != .word "GROUP")

/-- What is selected without the qualifier in front of it. -/
def unqualified : List Token → List Token
  | .word first :: .word second :: rest =>
    if first = "WITH" ∧ second = "AGGREGATION_THRESHOLD" then rest
    else .word first :: .word second :: rest
  | ts => ts

/-- The columns of the outermost `SELECT`. -/
def selectedColumns (ts : List Token) : List (List Token) :=
  (unqualified ((ts.dropWhile (· != .word "SELECT")).tail.takeWhile (· != .word "FROM"))).splitOn
    (.symbol ',')

/-- The text of a word. -/
def Token.word? : Token → Option String
  | .word text => some text
  | _ => none

/-- The name of a column: its last word. -/
def columnName? (column : List Token) : Option String := column.getLast?.bind Token.word?

theorem fromTable_append {ts : List Token} (h : .word "FROM" ∉ ts) (rest : List Token) :
    fromTable (ts ++ rest) = fromTable rest := by
  induction ts with
  | nil => rfl
  | cons t ts ih =>
    rw [List.mem_cons, not_or] at h
    rw [List.cons_append, fromTable, if_neg fun hfrom => h.1 hfrom.1.symm, ih h.2]

theorem mem_of_mem_fromPart {ts : List Token} {t : Token} (h : t ∈ fromPart ts) : t ∈ ts := by
  have htable : ∀ ts : List Token, fromTable ts <:+ ts := by
    intro ts
    induction ts with
    | nil => exact List.suffix_rfl
    | cons t ts ih =>
      rw [fromTable]
      split
      · exact List.suffix_rfl
      · exact ih.trans (List.suffix_cons t ts)
  exact (htable ts).subset ((List.takeWhile_prefix _).subset h)

end Sql

/-! ## Words that start clauses -/

/-- A word that starts a clause. -/
def Sql.Token.startsClause : Token → Bool
  | .word text => ["SELECT", "FROM", "WHERE", "GROUP"].contains text
  | _ => false

/-- A dotted path starts no clause. -/
theorem startsClause_placesColumn (field : String) :
    (word ("places." ++ field)).startsClause = false := by
  rw [Token.startsClause, List.contains_eq_mem, decide_eq_false_iff_not]
  intro hmem
  have hhead : ("places." ++ field).toList.head? = some 'p' := by simp
  have hall : ∀ keyword ∈ ["SELECT", "FROM", "WHERE", "GROUP"],
      keyword.toList.head? ≠ some 'p' := by decide
  exact hall _ hmem hhead

/-- No column name starts a clause. -/
theorem startsClause_columnName (type : String) :
    (word (Counted.columnName type)).startsClause = false := by
  rw [Token.startsClause, List.contains_eq_mem, decide_eq_false_iff_not]
  intro hmem
  have hlast : (Counted.columnName type).toList.getLast? = some 't' := by
    simp [Counted.columnName]
  have hall : ∀ keyword ∈ ["SELECT", "FROM", "WHERE", "GROUP"],
      keyword.toList.getLast? ≠ some 't' := by decide
  exact hall _ hmem hlast

theorem startsClause_of_mem_listTokens {q : Sql.Quote} {texts : List String} {t : Token}
    (h : t ∈ listTokens q texts) : t.startsClause = false := by
  refine Sql.forall_mem_intercalate (P := fun t => t.startsClause = false) (by decide) ?_ t h
  intro p hp
  obtain ⟨text, -, rfl⟩ := List.mem_map.mp hp
  simp [Token.startsClause]

theorem startsClause_of_mem_preamble {p : Preamble} (h : p.isVerbatim = false) {t : Token}
    (ht : t ∈ p.tokens) : t.startsClause = false := by
  have hdeclared (wkt : String) : ∀ name ∈ ["search_area", "route"],
      ∀ t ∈ declarationTokens name wkt, t.startsClause = false := by
    simp [declarationTokens, Token.startsClause]
  cases p with
  | verbatim text => cases h
  | searchArea wkt => exact hdeclared wkt "search_area" (by decide) t ht
  | route wkt => exact hdeclared wkt "route" (by decide) t ht

theorem startsClause_of_mem_column (counted : Counted) :
    ∀ column ∈ counted.columnTokens, ∀ t ∈ column, t.startsClause = false := by
  have htotal : ∀ t ∈ Counted.totalColumnTokens, t.startsClause = false := by decide
  cases counted with
  | total => exact List.forall_mem_singleton.mpr htotal
  | perType types =>
    refine List.forall_mem_append.mpr
      ⟨fun column hcolumn => ?_, List.forall_mem_singleton.mpr htotal⟩
    obtain ⟨type, -, rfl⟩ := List.mem_map.mp hcolumn
    have hin : ∀ t ∈ typeInTokens type, t.startsClause = false := by
      simp [typeInTokens, Token.startsClause]
    have hname : ∀ t ∈ [symbol ')', word "AS", word (Counted.columnName type)],
        t.startsClause = false := by
      simpa [Token.startsClause] using startsClause_columnName type
    exact List.forall_mem_append.mpr
      ⟨List.forall_mem_append.mpr ⟨by decide, hin⟩, hname⟩
  | perBrand => decide
  | perRegion field =>
    have hfield : ∀ t ∈ [word ("places." ++ field), word "AS", word "region_name"],
        t.startsClause = false :=
      List.forall_mem_cons.mpr ⟨startsClause_placesColumn field, by decide⟩
    exact List.forall_mem_cons.mpr ⟨hfield, by decide⟩

/-- No condition holds the word that starts the grouping. -/
theorem group_notMem_condition {R : Type} [Coordinate R]
    (hrender : ∀ x : R, IsNumberText (Coordinate.render x)) {c : Condition R}
    (h : c.isVerbatim = false) : word "GROUP" ∉ c.tokens := by
  have hnumber {text : String} (htext : IsNumberText text) : word "GROUP" ∉ codeTokens text :=
    fun hmem => absurd (htext.isNumeric_of_mem hmem) (by decide)
  have hplain (x : Float) := hnumber (isNumberText_plainNumber x)
  have hnat (n : Nat) : "GROUP" ≠ n.repr :=
    fun heq => absurd (heq ▸ isNumeric_natRepr n) (by decide)
  have hlist (q : Sql.Quote) (texts : List String) : word "GROUP" ∉ listTokens q texts :=
    fun hmem => absurd (startsClause_of_mem_listTokens hmem) (by decide)
  have hcolumn (field : String) : "GROUP" ≠ "places." ++ field := by
    intro heq
    have hfield := startsClause_placesColumn field
    rw [← heq] at hfield
    revert hfield
    decide
  cases c with
  | verbatim text => cases h
  | region column names =>
    obtain ⟨field, type⟩ := column
    cases type <;> simp [Condition.tokens, unnestTokens, hlist, hcolumn]
  | rating bound => cases bound <;> simp [Condition.tokens, RatingBound.tokens, hplain]
  | anyType types =>
    have halternatives : word "GROUP" ∉ [word "OR"].intercalate (types.map typeInTokens) := by
      intro hmem
      refine Sql.forall_mem_intercalate (P := (· ≠ word "GROUP")) (by decide) ?_ _ hmem rfl
      intro ts hts
      obtain ⟨type, -, rfl⟩ := List.mem_map.mp hts
      simp [typeInTokens]
    unfold Condition.tokens
    dsimp only
    split
    · simpa using halternatives
    · exact halternatives
  | hours start finish =>
    cases start <;> cases finish <;>
      simp [Condition.tokens, hoursTokens, List.intercalate_cons_cons]
  | _ => simp [Condition.tokens, pointTokens, hnat, hlist, hcolumn, hnumber (hrender _)]

theorem endsSource_of_mem_source {s : Source} {t : Token} (h : t ∈ s.tokens) :
    t.endsSource = false := by
  have hhours (day : Weekday) : ∀ t ∈ symbol ',' ::
      unnestTokens ("places.regular_opening_hours." ++ day.name) "opening_period",
      t.endsSource = false := by
    cases day <;> decide
  have hbrands (table : String) : ∀ t ∈ brandsTokens table, t.endsSource = false := by
    simp [brandsTokens, unnestTokens, Token.endsSource]
  rw [Source.tokens, List.mem_append, List.mem_append] at h
  rcases h with (h | h) | h
  · have hfrom : ∀ t ∈ [word "FROM", quoted s.places, word "places"], t.endsSource = false := by
      simp [Token.endsSource]
    exact hfrom t h
  · cases hday : s.hoursOn with
    | none => simp [hday] at h
    | some day =>
      rw [hday] at h
      exact hhours day t h
  · cases htable : s.brands with
    | none => simp [htable] at h
    | some table =>
      rw [htable] at h
      exact hbrands table t h

theorem group_notMem_whereTokens {R : Type} [Coordinate R]
    (hrender : ∀ x : R, IsNumberText (Coordinate.render x)) {conditions : List (Condition R)}
    (h : ∀ c ∈ conditions, c.isVerbatim = false) :
    word "GROUP" ∉ Statement.whereTokens conditions := by
  unfold Statement.whereTokens
  split
  · simp
  · intro hmem
    rcases List.mem_cons.mp hmem with heq | hmem
    · revert heq
      decide
    · refine Sql.forall_mem_intercalate (P := (· ≠ word "GROUP")) (by decide) ?_ _ hmem rfl
      intro ts hts t ht
      obtain ⟨c, hc, rfl⟩ := List.mem_map.mp hts
      rintro rfl
      exact group_notMem_condition hrender (h c hc) ht

/-! ## Reading clauses -/

namespace Sql

/-- A scanner that stops at a word finds what stands in front of it. -/
theorem takeWhile_append_eq {p : Token → Bool} {front back : List Token}
    (hfront : ∀ t ∈ front, p t = true) (hback : ∀ t ∈ back.head?, p t = false) :
    (front ++ back).takeWhile p = front ∧ (front ++ back).dropWhile p = back := by
  rw [List.takeWhile_append_of_pos hfront, List.dropWhile_append_of_pos hfront]
  cases back with
  | nil => simp
  | cons t back => simp [hback t rfl]

end Sql

namespace Statement

variable {R : Type} [Coordinate R]

/-- A source with conditions and a grouping behind it. -/
theorem fromPart_eq {ts : List Token} {source : Source} {conditions : List (Condition R)}
    {back : List Token} (hrender : ∀ x : R, IsNumberText (Coordinate.render x))
    (hconditions : ∀ c ∈ conditions, c.isVerbatim = false)
    (hback : ∀ t ∈ back.head?, t = word "GROUP")
    (hts : Sql.fromTable ts = source.tokens ++ (whereTokens conditions ++ back)) :
    Sql.fromPart ts = source.tokens ∧ Sql.wherePart ts = whereTokens conditions := by
  have hsource : ∀ t ∈ source.tokens, (!t.endsSource) = true := by
    intro t ht
    rw [endsSource_of_mem_source ht, Bool.not_false]
  have hstop : ∀ t ∈ (whereTokens conditions ++ back).head?, (!t.endsSource) = false := by
    intro t ht
    unfold whereTokens at ht
    split at ht
    · obtain rfl := hback t ht
      decide
    · obtain rfl := Option.some.inj ht
      decide
  have hwhere : ∀ t ∈ whereTokens conditions, (t != word "GROUP") = true := by
    intro t ht
    rw [bne_iff_ne]
    rintro rfl
    exact group_notMem_whereTokens hrender hconditions ht
  have hgroup : ∀ t ∈ back.head?, (t != word "GROUP") = false := by
    intro t ht
    rw [hback t ht]
    decide
  obtain ⟨hfrom, hbehind⟩ := Sql.takeWhile_append_eq hsource hstop
  rw [Sql.fromPart, Sql.wherePart, hts, hfrom, hbehind]
  exact ⟨rfl, (Sql.takeWhile_append_eq hwhere hgroup).1⟩

omit [Coordinate R] in
theorem fromTable_source (source : Source) (rest : List Token) :
    Sql.fromTable (source.tokens ++ rest) = source.tokens ++ rest := by
  simp [Source.tokens, Sql.fromTable, Token.isQuoted]

/-- No clause starts within what is declared. -/
theorem startsClause_of_mem_declared {preamble : Option Preamble}
    (h : ∀ p ∈ preamble, p.isVerbatim = false) :
    ∀ t ∈ (preamble.map Preamble.tokens).getD [], t.startsClause = false := by
  cases preamble with
  | none => simp
  | some p => exact fun t ht => startsClause_of_mem_preamble (h p rfl) ht

/-- The tokens hold this preamble, this source and these conditions. -/
structure HasClauses (ts : List Token) (preamble : Option Preamble) (source : Source)
    (conditions : List (Condition R)) : Prop where
  /-- Nothing stands between the preamble and the first `SELECT`. -/
  starts : (preamble.map Preamble.tokens).getD [] ++ [word "SELECT"] <+: ts
  preamblePart_eq : Sql.preamblePart ts = (preamble.map Preamble.tokens).getD []
  fromPart_eq : Sql.fromPart ts = source.tokens
  wherePart_eq : Sql.wherePart ts = whereTokens conditions

omit [Coordinate R] in
/-- A preamble ends where the statement selects. -/
theorem preamblePart_eq {preamble : Option Preamble} (h : ∀ p ∈ preamble, p.isVerbatim = false)
    (rest : List Token) :
    Sql.preamblePart ((preamble.map Preamble.tokens).getD [] ++ word "SELECT" :: rest) =
      (preamble.map Preamble.tokens).getD [] ∧
    ((preamble.map Preamble.tokens).getD [] ++ word "SELECT" :: rest).dropWhile
      (· != word "SELECT") = word "SELECT" :: rest := by
  have hfront : ∀ t ∈ (preamble.map Preamble.tokens).getD [], (t != word "SELECT") = true := by
    intro t ht
    rw [bne_iff_ne]
    rintro rfl
    exact absurd (startsClause_of_mem_declared h _ ht) (by decide)
  exact Sql.takeWhile_append_eq hfront (by simp)

omit [Coordinate R] in
/-- In front of the source of a counting statement no clause looks for places. -/
theorem from_notMem_select (counted : Counted) : word "FROM" ∉ selectTokens counted := by
  intro hmem
  rcases List.mem_append.mp hmem with hmem | hmem
  · revert hmem
    decide
  · have hcolumns := Sql.forall_mem_intercalate (P := fun t : Token => t.startsClause = false)
      (by decide : ∀ t ∈ [symbol ','], t.startsClause = false)
      (startsClause_of_mem_column counted)
    exact absurd (hcolumns _ hmem) (by decide)

theorem hasClauses_count (hrender : ∀ x : R, IsNumberText (Coordinate.render x))
    {preamble : Option Preamble} {counted : Counted} {source : Source}
    {conditions : List (Condition R)} (h : (count preamble counted source conditions).IsLegible) :
    HasClauses (count preamble counted source conditions).tokens preamble source conditions := by
  obtain ⟨hpreamble, -, -, hconditions⟩ := h
  have hlead : word "FROM" ∉ (preamble.map Preamble.tokens).getD [] ++ selectTokens counted := by
    rw [List.mem_append, not_or]
    refine ⟨fun hmem => ?_, from_notMem_select counted⟩
    exact absurd (startsClause_of_mem_declared hpreamble _ hmem) (by decide)
  have hback : ∀ t ∈ counted.groupingTokens.head?, t = word "GROUP" := by
    cases counted <;> simp [Counted.groupingTokens]
  have htable : Sql.fromTable (count preamble counted source conditions).tokens =
      source.tokens ++ (whereTokens conditions ++ counted.groupingTokens) := by
    simp only [tokens, List.append_assoc]
    rw [← List.append_assoc, Sql.fromTable_append hlead, fromTable_source]
  obtain ⟨hfrom, hwhere⟩ := fromPart_eq hrender hconditions hback htable
  refine ⟨?_, ?_, hfrom, hwhere⟩
  · simp [tokens, selectTokens]
  · simp only [tokens, selectTokens, List.append_assoc, List.cons_append]
    exact (preamblePart_eq hpreamble _).1

theorem hasClauses_cells (hrender : ∀ x : R, IsNumberText (Coordinate.render x))
    {preamble : Option Preamble} {resolution : Nat} {source : Source}
    {conditions : List (Condition R)}
    (h : (cells preamble resolution source conditions).IsLegible) :
    HasClauses (cells preamble resolution source conditions).tokens preamble source
      conditions := by
  obtain ⟨hpreamble, -, hconditions⟩ := h
  have hdeclared : word "FROM" ∉ (preamble.map Preamble.tokens).getD [] :=
    fun hmem => absurd (startsClause_of_mem_declared hpreamble _ hmem) (by decide)
  have hresolution : "FROM" ≠ resolution.repr :=
    fun heq => absurd (heq ▸ isNumeric_natRepr resolution) (by decide)
  have htable (rest : List Token) : Sql.fromTable (cellTokens resolution ++ rest) =
      Sql.fromTable rest := by
    simp [cellTokens, Sql.fromTable, Token.isQuoted, hresolution.symm]
  have hback : ∀ t ∈ cellGroupingTokens.head?, t = word "GROUP" := by simp [cellGroupingTokens]
  have hts : Sql.fromTable (cells preamble resolution source conditions).tokens =
      source.tokens ++ (whereTokens conditions ++ cellGroupingTokens) := by
    simp only [tokens, List.append_assoc]
    rw [Sql.fromTable_append hdeclared, htable, fromTable_source]
  obtain ⟨hfrom, hwhere⟩ := fromPart_eq hrender hconditions hback hts
  refine ⟨?_, ?_, hfrom, hwhere⟩
  · simp [tokens, cellTokens]
  · simp only [tokens, cellTokens, List.append_assoc, List.cons_append]
    exact (preamblePart_eq hpreamble _).1

omit [Coordinate R] in
theorem comma_notMem_column (counted : Counted) :
    ∀ column ∈ counted.columnTokens, symbol ',' ∉ column := by
  cases counted with
  | total => simp [Counted.columnTokens, Counted.totalColumnTokens]
  | perType types =>
    simp [Counted.columnTokens, Counted.totalColumnTokens, Counted.typeColumnTokens, typeInTokens,
      or_imp, forall_and]
  | perBrand => simp [Counted.columnTokens]
  | perRegion field => simp [Counted.columnTokens]

/-- A reader finds the columns one by one. -/
theorem selectedColumns_count {preamble : Option Preamble} {counted : Counted} {source : Source}
    {conditions : List (Condition R)} (h : (count preamble counted source conditions).IsLegible) :
    Sql.selectedColumns (count preamble counted source conditions).tokens =
      counted.columnTokens := by
  obtain ⟨hpreamble, -, -, -⟩ := h
  have hne : counted.columnTokens ≠ [] := by
    cases counted <;> simp [Counted.columnTokens]
  have hfront : ∀ t ∈ (selectTokens counted).tail, (t != word "FROM") = true := by
    intro t ht
    rw [bne_iff_ne]
    rintro rfl
    exact from_notMem_select counted (List.mem_of_mem_tail ht)
  have hselect : selectTokens counted = word "SELECT" :: (selectTokens counted).tail := rfl
  have htokens : (count preamble counted source conditions).tokens =
      (preamble.map Preamble.tokens).getD [] ++ word "SELECT" :: ((selectTokens counted).tail ++
        (source.tokens ++ whereTokens conditions ++ counted.groupingTokens)) := by
    simp [tokens, selectTokens]
  have hstop : ∀ t ∈ (source.tokens ++ whereTokens conditions ++ counted.groupingTokens).head?,
      (t != word "FROM") = false := by
    simp [Source.tokens]
  rw [Sql.selectedColumns, htokens, (preamblePart_eq hpreamble _).2, List.tail_cons,
    (Sql.takeWhile_append_eq hfront hstop).1]
  exact List.splitOn_intercalate _ (comma_notMem_column counted) hne

end Statement

/-- Every statement but a function call is made from the same parts. -/
theorem Request.statement_eq {R : Type} {r : Request R} (territory : Territory)
    (h : r.features.shape ≠ .function) :
    (∃ counted, r.statement territory =
      .count r.scope.preamble counted (r.source territory) r.predicates) ∨
    r.statement territory =
      .cells r.scope.preamble r.resolution (r.source territory) r.predicates := by
  rw [← conditions_eq]
  unfold statement
  cases hshape : r.features.shape with
  | function => exact absurd hshape h
  | cells => exact .inr rfl
  | _ => exact .inl ⟨_, rfl⟩

/-- Every statement but a function call has the clauses of its request. -/
theorem Request.hasClauses_statement {edition : Edition} {label : String} {territory : Territory}
    (hterritory : Territory.lookup? edition label = some territory) {r : Request Degrees}
    (hr : r.scope.IsResolved) (hshape : r.features.shape ≠ .function) :
    Statement.HasClauses (r.statement territory).tokens r.scope.preamble (r.source territory)
      r.predicates := by
  have hnumber : ∀ x : Degrees, IsNumberText (Coordinate.render x) :=
    fun x => isNumberText_plainNumber x.value
  have hlegible := isLegible_statement hterritory hr
  rcases statement_eq territory hshape with ⟨counted, heq⟩ | heq
  · rw [heq] at hlegible ⊢
    exact Statement.hasClauses_count hnumber hlegible
  · rw [heq] at hlegible ⊢
    exact Statement.hasClauses_cells hnumber hlegible

end PlaceSearch
