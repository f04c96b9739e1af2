-- SUMMARY: What the count of a place type says, compared with a search for that type alone.
import PlaceSearch.Proofs.Query.Columns

/-!
# Breakdown by place type

A search for several place types answers with one count for each of them. Here
statements are asked of a list of places: conditions on types are read from the
text and tested, all other conditions are whatever they are. The count of a type
is compared with the count of a search for that type alone.

The two agree when a search looks at all types of a place. When it looks at the
primary type only, the columns look at all types still, so a place is also counted
for the selected types that it has beside its primary one.
-/

namespace PlaceSearch

open Sql (Token listTokens)
open Sql.Token (word symbol)

/-! ## Tests of types -/

/-- A place, as far as its types matter. -/
structure PlaceRow where
  primaryType : String
  types : List String
  primaryType_mem : primaryType ∈ types
  /-- Whether the place meets a condition that does not test its types. -/
  meets : List Token → Bool

/-- A test of the types of a place. -/
inductive TypeTest where
  /-- The primary type is one of these. -/
  | primary (names : List String)
  /-- One of these is among the types. -/
  | any (names : List String)
deriving DecidableEq, Repr

def TypeTest.holds : TypeTest → PlaceRow → Bool
  | .primary names, p => names.contains p.primaryType
  | .any names, p => names.any fun name => p.types.contains name

namespace TypeTest

/-- A literal by itself. -/
def literal? : List Token → Option String
  | [.literal _ text] => some text
  | _ => none

/-- Membership in the types of a place. -/
def member? : List Token → Option String
  | .literal q text :: rest =>
    if .literal q text :: rest = typeInTokens text then some text else none
  | _ => none

/-- What stands between the first and the last token of a parenthesis. -/
def enclosed? (ts : List Token) : Option (List Token) :=
  if ts.head? = some (symbol '(') ∧ ts.getLast? = some (symbol ')') then some ts.tail.dropLast
  else none

/-- Read a condition that tests types: a primary type in a list, a type of the place, or
    several such in parentheses. -/
def read? : List Token → Option TypeTest
  | .word column :: .word relation :: rest =>
    if column = "places.primary_type" ∧ relation = "IN" then do
      let items ← enclosed? rest
      let names ← (items.splitOn (symbol ',')).mapM literal?
      return .primary names
    else none
  | .literal q text :: rest => (member? (.literal q text :: rest)).map fun name => .any [name]
  | .symbol c :: rest => do
    let alternatives ← enclosed? (.symbol c :: rest)
    let names ← (alternatives.splitOn (word "OR")).mapM member?
    return .any names
  | _ => none

theorem member?_typeInTokens (type : String) : member? (typeInTokens type) = some type := by
  simp [member?, typeInTokens]

theorem enclosed?_parens (ts : List Token) :
    enclosed? (symbol '(' :: (ts ++ [symbol ')'])) = some ts := by
  have hlast : (symbol '(' :: (ts ++ [symbol ')'])).getLast? = some (symbol ')') := by
    rw [← List.cons_append, List.getLast?_concat]
  rw [enclosed?, if_pos ⟨rfl, hlast⟩, List.tail_cons, List.dropLast_concat]

/-- What is written one by one is read one by one. -/
theorem mapM_map_eq_some {α β γ : Type} {read : β → Option γ} {write : α → β} {value : α → γ}
    (h : ∀ x, read (write x) = some (value x)) (xs : List α) :
    (xs.map write).mapM read = some (xs.map value) := by
  induction xs with
  | nil => rfl
  | cons x xs ih => simp [List.mapM_cons, h, ih]

/-- Joined parts are read one by one. -/
theorem mapM_splitOn_intercalate {α : Type} {separator : Token} {read : List Token → Option α}
    {write : α → List Token} (hread : ∀ x, read (write x) = some x)
    (hsep : ∀ x, separator ∉ write x) {xs : List α} (hne : xs ≠ []) :
    (([separator].intercalate (xs.map write)).splitOn separator).mapM read = some xs := by
  have hparts : ∀ ts ∈ xs.map write, separator ∉ ts := by
    intro ts hts
    obtain ⟨x, -, rfl⟩ := List.mem_map.mp hts
    exact hsep x
  rw [List.splitOn_intercalate _ hparts (by simpa using hne), mapM_map_eq_some hread, List.map_id']

/-- The condition on primary types is read as what it was written for. -/
theorem read?_primaryType {R : Type} [Coordinate R] {names : List String} (h : names ≠ []) :
    read? (Condition.primaryType names : Condition R).tokens = some (.primary names) := by
  have hread : ∀ text, literal? [Token.literal .single text] = some text := fun _ => rfl
  have hcomma : ∀ text, symbol ',' ∉ [Token.literal .single text] := by simp
  have hlist := mapM_splitOn_intercalate hread hcomma h
  have htokens : (Condition.primaryType names : Condition R).tokens =
      word "places.primary_type" :: word "IN" ::
        symbol '(' :: (listTokens .single names ++ [symbol ')']) := by
    simp [Condition.tokens]
  rw [htokens, read?, if_pos ⟨rfl, rfl⟩, enclosed?_parens]
  simp [listTokens, hlist]

/-- One alternative is read by itself, several in parentheses. -/
theorem read?_anyType {R : Type} [Coordinate R] {names : List String} (h : names ≠ []) :
    read? (Condition.anyType names : Condition R).tokens = some (.any names) := by
  have hor : ∀ type, word "OR" ∉ typeInTokens type := by simp [typeInTokens]
  have hlist := mapM_splitOn_intercalate member?_typeInTokens hor h
  cases names with
  | nil => exact absurd rfl h
  | cons name rest =>
    cases rest with
    | nil =>
      have htokens : (Condition.anyType [name] : Condition R).tokens = typeInTokens name := by
        simp [Condition.tokens]
      rw [htokens]
      exact congrArg (Option.map fun name => TypeTest.any [name]) (member?_typeInTokens name)
    | cons next rest =>
      have htokens : (Condition.anyType (name :: next :: rest) : Condition R).tokens =
          symbol '(' :: ([word "OR"].intercalate ((name :: next :: rest).map typeInTokens) ++
            [symbol ')']) := by
        simp [Condition.tokens]
      rw [htokens, read?, enclosed?_parens]
      simp only [Option.bind_eq_bind, Option.bind_some, hlist]
      rfl

end TypeTest

/-! ## Answers -/

/-- Whether a place satisfies a condition, as its tokens say. -/
def PlaceRow.satisfies (p : PlaceRow) (condition : List Token) : Bool :=
  match TypeTest.read? condition with
  | some test => test.holds p
  | none => p.meets condition

/-- What a column counts among some places: all of them, or those that a test holds for. -/
def columnCount? (places : List PlaceRow) (column : List Token) : Option Nat :=
  if column.dropLast = [word "COUNT", symbol '(', symbol '*', symbol ')', word "AS"] then
    some places.length
  else if column.take 2 = [word "COUNTIF", symbol '('] ∧
      column.reverse.tail.take 2 = [word "AS", symbol ')'] then
    (TypeTest.read? ((column.take (column.length - 3)).drop 2)).map fun test =>
      places.countP test.holds
  else none

theorem columnCount?_total (places : List PlaceRow) :
    columnCount? places Counted.totalColumnTokens = some places.length := rfl

theorem columnCount?_typeColumn (places : List PlaceRow) (type : String) :
    columnCount? places (Counted.typeColumnTokens type) =
      some (places.countP fun p => p.types.contains type) := by
  have hcolumn : Counted.typeColumnTokens type = [word "COUNTIF", symbol '('] ++
      typeInTokens type ++ [symbol ')', word "AS", word (Counted.columnName type)] := rfl
  have htest : TypeTest.read? (typeInTokens type) = some (.any [type]) :=
    congrArg (Option.map fun name => TypeTest.any [name]) (TypeTest.member?_typeInTokens type)
  have hholds : (TypeTest.any [type]).holds = fun p => p.types.contains type := by
    funext p
    simp [TypeTest.holds]
  have hinner : ((Counted.typeColumnTokens type).take
      ((Counted.typeColumnTokens type).length - 3)).drop 2 = typeInTokens type := rfl
  rw [columnCount?, if_neg (by simp [hcolumn, typeInTokens]), if_pos ⟨rfl, rfl⟩, hinner, htest,
    Option.map_some, hholds]

/-- A column of the answer: its name and its count. -/
def columnAnswer? (places : List PlaceRow) (column : List Token) : Option (String × Nat) := do
  let name ← Sql.columnName? column
  let count ← columnCount? places column
  return (name, count)

theorem columnAnswer?_total (places : List PlaceRow) :
    columnAnswer? places Counted.totalColumnTokens = some ("total_count", places.length) := by
  simp [columnAnswer?, Counted.columnName?_totalColumn, columnCount?_total]

theorem columnAnswer?_typeColumn (places : List PlaceRow) (type : String) :
    columnAnswer? places (Counted.typeColumnTokens type) =
      some (Counted.columnName type, places.countP fun p => p.types.contains type) := by
  simp [columnAnswer?, Counted.columnName?_typeColumn, columnCount?_typeColumn]

namespace Request

/-- The place satisfies every condition of the request. -/
def selects (r : Request Degrees) (p : PlaceRow) : Bool :=
  r.predicates.all fun c => p.satisfies c.tokens

/-- The row that a statement without grouping answers with, each column under its name,
    provided that its `WHERE` clause asks for the conditions of the request. -/
def answer? (r : Request Degrees) (territory : Territory) (places : List PlaceRow) :
    Option (List (String × Nat)) := do
  let ts ← Sql.tokenize (r.statement territory).render
  if Sql.wherePart ts = Statement.whereTokens r.predicates then
    (Sql.selectedColumns ts).mapM (columnAnswer? (places.filter r.selects))
  else none

/-- The same request with one place type. -/
def onlyType (r : Request Degrees) (type : String) : Request Degrees :=
  { r with selection := { r.selection with placeTypes := [type] } }

/-- A search for several types answers with the count of each and that of all places. -/
theorem answer?_perType {edition : Edition} {label : String} {territory : Territory}
    (hterritory : Territory.lookup? edition label = some territory) {r : Request Degrees}
    (hr : r.scope.IsResolved) (hshape : (r.statement territory).shape = .perType)
    (places : List PlaceRow) :
    r.answer? territory places = some
      (r.selection.placeTypes.map (fun type => (Counted.columnName type,
          (places.filter r.selects).countP fun p => p.types.contains type)) ++
        [("total_count", (places.filter r.selects).length)]) := by
  have htypes := TypeTest.mapM_map_eq_some (columnAnswer?_typeColumn (places.filter r.selects))
    r.selection.placeTypes
  have hfeatures : r.features.shape ≠ .function := by
    rw [← shape_statement r territory, hshape]
    decide
  rw [answer?, tokenize_statement hterritory hr, Option.bind_eq_bind, Option.bind_some,
    if_pos (hasClauses_statement hterritory hr hfeatures).wherePart_eq,
    selectedColumns_perType hterritory hr hshape, List.mapM_append, htypes]
  simp [columnAnswer?_total]

/-- A search without breakdown answers with the count of all places. -/
theorem answer?_total {edition : Edition} {label : String} {territory : Territory}
    (hterritory : Territory.lookup? edition label = some territory) {r : Request Degrees}
    (hr : r.scope.IsResolved) (hshape : r.features.shape = .total) (places : List PlaceRow) :
    r.answer? territory places = some [("total_count", (places.filter r.selects).length)] := by
  have hlegible := isLegible_statement hterritory hr
  have hstatement : r.statement territory =
      .count r.scope.preamble .total (r.source territory) r.conditions := by
    unfold statement
    rw [hshape]
  have hcolumns : Sql.selectedColumns (r.statement territory).tokens =
      [Counted.totalColumnTokens] := by
    rw [hstatement] at hlegible ⊢
    exact Statement.selectedColumns_count hlegible
  have hfeatures : r.features.shape ≠ .function := by
    rw [hshape]
    decide
  rw [answer?, tokenize_statement hterritory hr, Option.bind_eq_bind, Option.bind_some,
    if_pos (hasClauses_statement hterritory hr hfeatures).wherePart_eq, hcolumns]
  simp [columnAnswer?_total]

/-- Whether a place meets everything but the condition on its types. -/
def meetsOthers (r : Request Degrees) (p : PlaceRow) : Bool :=
  (r.scope.condition.toList ++ Filter.inOrder.tail.flatMap r.selection.conditionsOf).all fun c =>
    p.satisfies c.tokens

/-- Whether a place satisfies the condition on place types, if there is one. -/
def meetsTypes (r : Request Degrees) (p : PlaceRow) : Bool :=
  (r.selection.conditionsOf .placeTypes).all fun c : Condition Degrees => p.satisfies c.tokens

theorem selects_eq (r : Request Degrees) (p : PlaceRow) :
    r.selects p = (r.meetsOthers p && r.meetsTypes p) := by
  have hsplit : Filter.inOrder.flatMap r.selection.conditionsOf =
      (r.selection.conditionsOf .placeTypes : List (Condition Degrees)) ++
        Filter.inOrder.tail.flatMap r.selection.conditionsOf := rfl
  rw [selects, predicates, meetsOthers, meetsTypes, hsplit, List.all_append, List.all_append,
    List.all_append, Bool.and_right_comm, Bool.and_assoc, Bool.and_comm (List.all _ _)]

theorem meetsTypes_eq {r : Request Degrees} (h : r.selection.placeTypes ≠ []) (p : PlaceRow) :
    r.meetsTypes p = if r.selection.primaryTypeOnly
      then r.selection.placeTypes.contains p.primaryType
      else r.selection.placeTypes.any fun type => p.types.contains type := by
  rw [meetsTypes, Selection.conditionsOf, if_neg h]
  split
  · simp [PlaceRow.satisfies, TypeTest.read?_primaryType h, TypeTest.holds]
  · simp [PlaceRow.satisfies, TypeTest.read?_anyType h, TypeTest.holds]

theorem selects_onlyType (r : Request Degrees) (type : String) (p : PlaceRow) :
    (r.onlyType type).selects p = (r.meetsOthers p && if r.selection.primaryTypeOnly
      then p.primaryType == type else p.types.contains type) := by
  have hothers : (r.onlyType type).meetsOthers p = r.meetsOthers p := rfl
  have hne : (r.onlyType type).selection.placeTypes ≠ [] := List.cons_ne_nil _ _
  rw [selects_eq, hothers, meetsTypes_eq hne]
  simp [onlyType, Bool.beq_eq_decide_eq]

/-- The search for one of several types is a search without breakdown. -/
theorem shape_onlyType {r : Request Degrees} (h : r.features.shape = .perType) (type : String) :
    (r.onlyType type).features.shape = .total := by
  obtain ⟨hcells, hregions, hbrands, -⟩ := Features.eq_of_shape_eq_perType h
  have hfeatures : (r.onlyType type).features = ⟨r.features.cells, r.features.functionMode,
      r.features.multipleRegions, r.features.brands, 1⟩ := rfl
  rw [hfeatures, hcells, hregions, hbrands]
  rfl

/-- A place is counted for another type than its primary one. -/
def countsBeside (r : Request Degrees) (type : String) (p : PlaceRow) : Bool :=
  r.selection.primaryTypeOnly && p.types.contains type && p.primaryType != type

/-- Among the places of a search, those with a type are the places of the search for the
    type alone and, if only primary types are looked at, those that have it beside another. -/
theorem selects_and_contains {r : Request Degrees} {type : String}
    (h : type ∈ r.selection.placeTypes) (p : PlaceRow) :
    (r.selects p && p.types.contains type) =
      ((r.onlyType type).selects p || r.selects p && r.countsBeside type p) := by
  have hne : r.selection.placeTypes ≠ [] := List.ne_nil_of_mem h
  rw [selects_onlyType, selects_eq, meetsTypes_eq hne, countsBeside]
  have hprimary := p.primaryType_mem
  cases r.meetsOthers p with
  | false => simp
  | true =>
    cases r.selection.primaryTypeOnly with
    | false =>
      by_cases hcontains : type ∈ p.types
      · have hany : ∃ name ∈ r.selection.placeTypes, name ∈ p.types := ⟨type, h, hcontains⟩
        simpa [hcontains] using hany
      · simp [hcontains]
    | true =>
      by_cases heq : p.primaryType = type
      · simp [← heq, hprimary, heq.symm ▸ h]
      · have hne : (p.primaryType == type) = false := beq_false_of_ne heq
        simp [hne, bne]

/-- No place of the search for one type has it beside its primary one. -/
theorem onlyType_and_beside (r : Request Degrees) (type : String) (p : PlaceRow) :
    ((r.onlyType type).selects p && (r.selects p && r.countsBeside type p)) = false := by
  rw [selects_onlyType, countsBeside]
  cases r.selection.primaryTypeOnly with
  | false => simp
  | true => cases heq : p.primaryType == type <;> simp [heq, bne]

/-- Two kinds that exclude each other are counted one by one. -/
theorem countP_or_eq {α : Type} {p q : α → Bool} (h : ∀ x, (p x && q x) = false) (xs : List α) :
    xs.countP (fun x => p x || q x) = xs.countP p + xs.countP q := by
  induction xs with
  | nil => rfl
  | cons x xs ih =>
    have hx := h x
    simp only [List.countP_cons, ih]
    cases hp : p x <;> cases hq : q x <;> simp_all <;> omega

/-- The count of a place type, compared with the search for the type alone: both see the
    places that satisfy all the other conditions, and the count of the type sees those of
    the search for the type alone and the places that have the type beside their primary
    one, if only primary types are looked at. -/
theorem typeCount_eq {edition : Edition} {label : String} {territory : Territory}
    (hterritory : Territory.lookup? edition label = some territory) {r : Request Degrees}
    (hr : r.scope.IsResolved) (hshape : (r.statement territory).shape = .perType)
    (places : List PlaceRow) {i : Nat} {type : String} (hi : r.selection.placeTypes[i]? = some type) :
    ∃ answer single,
      r.answer? territory places = some answer ∧
      (r.onlyType type).answer? territory places = some [("total_count", single)] ∧
      answer[i]? = some (Counted.columnName type,
        single + places.countP fun p => r.selects p && r.countsBeside type p) ∧
      (r.selection.primaryTypeOnly = false →
        answer[i]? = some (Counted.columnName type, single)) ∧
      ∀ p, r.selects p = true → (p.types.contains type = true ↔
        (r.onlyType type).meetsTypes p = true ∨ r.countsBeside type p = true) := by
  have hmem : type ∈ r.selection.placeTypes := List.mem_of_getElem? hi
  have hfeatures : r.features.shape = .perType := by rwa [shape_statement] at hshape
  have hresolved : (r.onlyType type).scope.IsResolved := hr
  have hsingle := answer?_total hterritory hresolved (shape_onlyType hfeatures type) places
  rw [← List.countP_eq_length_filter] at hsingle
  have hcount : (places.filter r.selects).countP (fun p => p.types.contains type) =
      places.countP (r.onlyType type).selects +
        places.countP fun p => r.selects p && r.countsBeside type p := by
    rw [List.countP_filter, ← countP_or_eq (onlyType_and_beside r type)]
    refine List.countP_congr fun p _ => ?_
    rw [Bool.and_comm, selects_and_contains hmem]
  have hanswer : (r.selection.placeTypes.map (fun type => (Counted.columnName type,
      (places.filter r.selects).countP fun p => p.types.contains type)) ++
        [("total_count", (places.filter r.selects).length)])[i]? = some (Counted.columnName type,
      places.countP (r.onlyType type).selects +
        places.countP fun p => r.selects p && r.countsBeside type p) := by
    have hlt : i < r.selection.placeTypes.length := (List.getElem?_eq_some_iff.mp hi).1
    rw [List.getElem?_append_left (by simpa using hlt), List.getElem?_map, hi, Option.map_some,
      hcount]
  refine ⟨_, _, answer?_perType hterritory hr hshape places, hsingle, hanswer, fun hall => ?_,
    fun p hselected => ?_⟩
  · have hnone : (places.countP fun p => r.selects p && r.countsBeside type p) = 0 := by
      simp [countsBeside, hall]
    rw [hanswer, hnone, Nat.add_zero]
  · have hcontains := selects_and_contains hmem p
    have hothers : (r.onlyType type).meetsOthers p = true := by
      rw [selects_eq, Bool.and_eq_true] at hselected
      exact hselected.1
    rw [hselected, selects_eq (r.onlyType type), hothers, Bool.true_and, Bool.true_and,
      Bool.true_and] at hcontains
    rw [hcontains, Bool.or_eq_true]

/-- A search along a route for cafes and bakeries by primary type. -/
def primarySearch : Request Degrees :=
  let r := typedSearch ["cafe", "bakery"]
  { r with selection := { r.selection with primaryTypeOnly := true } }

/-- A bakery that is a cafe as well. -/
def bakeryCafe : PlaceRow := ⟨"bakery", ["bakery", "cafe"], by decide, fun _ => true⟩

theorem typeCount_bakeryCafe :
    ∃ answer single,
      primarySearch.answer? berlin [bakeryCafe] = some answer ∧
      (primarySearch.onlyType "bakery").answer? berlin [bakeryCafe] =
        some [("total_count", single)] ∧
      answer[1]? = some ("bakery_count", single) := by
  have hresolved : primarySearch.scope.IsResolved := routeSearch_isResolved _ []
  have hshape : (primarySearch.statement berlin).shape = .perType := by
    rw [shape_statement]
    decide
  have hbakery : primarySearch.selection.placeTypes[1]? = some "bakery" := by decide
  obtain ⟨answer, single, hanswer, hsingle, hcount, -⟩ :=
    typeCount_eq lookup?_berlin hresolved hshape [bakeryCafe] hbakery
  have hbeside : ([bakeryCafe].countP fun p =>
      primarySearch.selects p && primarySearch.countsBeside "bakery" p) = 0 := by decide
  have hname : Counted.columnName "bakery" = "bakery_count" := by decide
  rw [hbeside, Nat.add_zero, hname] at hcount
  exact ⟨answer, single, hanswer, hsingle, hcount⟩

/-- The count of a type need not be that of the search for the type alone: with a search by
    primary type, a bakery that is a cafe as well is counted as a cafe, but no place is found
    by the search for cafes. -/
theorem not_forall_typeCount_eq : ¬ ∀ r : Request Degrees, r.scope.IsResolved →
    (r.statement berlin).shape = .perType →
    ∀ (places : List PlaceRow) (i : Nat) (type : String),
      r.selection.placeTypes[i]? = some type →
      ∀ answer single, r.answer? berlin places = some answer →
        (r.onlyType type).answer? berlin places = some [("total_count", single)] →
        answer[i]? = some (Counted.columnName type, single) := by
  intro h
  have hresolved : primarySearch.scope.IsResolved := routeSearch_isResolved _ []
  have hshape : (primarySearch.statement berlin).shape = .perType := by
    rw [shape_statement]
    decide
  have hcafe : primarySearch.selection.placeTypes[0]? = some "cafe" := by decide
  have hanswer := answer?_perType lookup?_berlin hresolved hshape [bakeryCafe]
  have honly : (primarySearch.onlyType "cafe").scope.IsResolved := hresolved
  have hsingle := answer?_total lookup?_berlin honly (shape_onlyType (by decide) "cafe")
    [bakeryCafe]
  have hcount := h primarySearch hresolved hshape [bakeryCafe] 0 "cafe" hcafe _ _ hanswer hsingle
  revert hcount
  decide

end Request

end PlaceSearch
