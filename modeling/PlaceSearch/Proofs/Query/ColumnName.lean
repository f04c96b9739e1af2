-- SUMMARY: Masked statements with the column names of place types put aside.
import PlaceSearch.Proofs.Query.Scan

/-!
# Column names of place types

A statement with one column for each place type names the columns after the
types. `setAside` finds these names in a masked text by what stands in front of
them, and takes each of them up to the next comma. The rest of the text does not
depend on the types, and nothing else in a statement looks like such a column.
-/

namespace PlaceSearch

open Sql (Mark Fragment)
open Sql.Fragment (marks code literal literals)

/-- What stands between the literal of a place type and the name of its column. -/
def afterTypeLiteral : List Mark := Mark.ofString " IN UNNEST(places.types)) AS "

/-- The literal of a place type and everything up to the name of its column. -/
def typeColumnLead : List Mark := .literal .single :: afterTypeLiteral

/-- A masked text with the names of type columns replaced by one mark each, and
    these names. -/
def setAside (ms : List Mark) : List Mark × List (List Mark) :=
  match ms with
  | [] => ([], [])
  | m :: rest =>
    if typeColumnLead.isPrefixOf (m :: rest) then
      let after := (m :: rest).drop typeColumnLead.length
      let (text, names) := setAside (after.dropWhile (· != .char ','))
      (typeColumnLead ++ .columnName :: text, after.takeWhile (· != .char ',') :: names)
    else
      let (text, names) := setAside rest
      (m :: text, names)
termination_by ms.length
decreasing_by
  · have := (List.dropWhile_sublist (· != Mark.char ',')
      (l := (m :: rest).drop typeColumnLead.length)).length_le
    simp only [List.length_drop, typeColumnLead, List.length_cons] at this ⊢
    omega
  · simp

/-! ## Text in front -/

/-- The marks `xs` in front of `k` hold no type column, so they stay as they are. -/
def Untouched (xs k : List Mark) : Prop := setAside (xs ++ k) = (setAside k).map (xs ++ ·) id

theorem setAside_cons_of_not_startsWith {m : Mark} {k : List Mark} (h : ¬ typeColumnLead <+: m :: k) :
    setAside (m :: k) = (setAside k).map (m :: ·) id := by
  rw [setAside, if_neg (by rwa [List.isPrefixOf_iff_prefix])]
  rfl

/-- Two lists that differ at a place within both do not start alike, whatever follows. -/
theorem not_prefix_append {xs ys : List Mark} (i : Nat) (hx : i < xs.length) (hy : i < ys.length)
    (h : xs[i] ≠ ys[i]) (k : List Mark) : ¬ xs <+: ys ++ k := by
  intro h'
  obtain ⟨tail, htail⟩ := h'
  apply h
  have hi := congrArg (·[i]?) htail
  simpa [List.getElem?_append_left, hx, hy] using hi

namespace Untouched

theorem nil (k : List Mark) : Untouched [] k := by
  simp [Untouched, Prod.map]

theorem append {xs ys k : List Mark} (hx : Untouched xs (ys ++ k)) (hy : Untouched ys k) :
    Untouched (xs ++ ys) k := by
  unfold Untouched at *
  rw [List.append_assoc, hx, hy]
  simp [Prod.map]

/-- A type column starts with a literal. -/
theorem char (c : Char) (k : List Mark) : Untouched [.char c] k := by
  refine setAside_cons_of_not_startsWith ?_
  intro h
  obtain ⟨tail, htail⟩ := h
  cases htail

theorem ofString (text : String) (k : List Mark) : Untouched (Mark.ofString text) k := by
  unfold Mark.ofString
  induction text.toList with
  | nil => exact nil k
  | cons c cs ih => exact (char c _).append ih

/-- A literal of another style does not start a type column. -/
theorem literal_of_ne {q : Sql.Quote} (hq : q ≠ .single) (k : List Mark) :
    Untouched [.literal q] k := by
  refine setAside_cons_of_not_startsWith ?_
  intro h
  obtain ⟨tail, htail⟩ := h
  exact hq (by cases htail; rfl)

/-- A literal with something else behind it does not start a type column. -/
theorem literal_of_not_startsWith {k : List Mark} (q : Sql.Quote) (h : ¬ afterTypeLiteral <+: k) :
    Untouched [.literal q] k := by
  refine setAside_cons_of_not_startsWith fun hstart => h ?_
  exact (List.cons_prefix_cons.mp hstart).2

end Untouched

/-- A type column behind its opening: its name, up to the comma, is put aside. -/
theorem setAside_typeColumnLead {name : List Mark} (h : .char ',' ∉ name) (k : List Mark) :
    setAside (typeColumnLead ++ name ++ .char ',' :: k) =
      (setAside (.char ',' :: k)).map (typeColumnLead ++ .columnName :: ·) (name :: ·) := by
  have hstart : typeColumnLead <+: .literal .single :: (afterTypeLiteral ++ (name ++ .char ',' :: k)) :=
    List.cons_prefix_cons.mpr ⟨rfl, List.prefix_append _ _⟩
  have hname : ∀ m ∈ name, (m != .char ',') = true := by
    intro m hm
    rw [bne_iff_ne]
    rintro rfl
    exact h hm
  have htake : (name ++ .char ',' :: k).takeWhile (· != .char ',') = name := by
    rw [List.takeWhile_append_of_pos hname]
    simp
  have hdrop : (name ++ .char ',' :: k).dropWhile (· != .char ',') = .char ',' :: k := by
    rw [List.dropWhile_append_of_pos hname]
    simp
  have hcons : typeColumnLead ++ name ++ .char ',' :: k =
      .literal .single :: (afterTypeLiteral ++ (name ++ .char ',' :: k)) := by
    simp [typeColumnLead]
  rw [hcons, setAside, if_pos (List.isPrefixOf_iff_prefix.mpr hstart)]
  have hafter : (Mark.literal .single :: (afterTypeLiteral ++ (name ++ .char ',' :: k))).drop
      typeColumnLead.length = name ++ .char ',' :: k := by
    rw [typeColumnLead, List.length_cons, List.drop_succ_cons, List.drop_left]
  simp only [hafter, htake, hdrop]
  rfl

/-! ## Conditions -/

/-- What follows a condition: the next condition or the end of the text. -/
def EndsCondition (k : List Mark) : Prop := k = [] ∨ ∃ rest, k = Mark.ofString " AND " ++ rest

namespace EndsCondition

theorem nil : EndsCondition [] := .inl rfl

theorem conjunction (rest : List Mark) : EndsCondition (Mark.ofString " AND " ++ rest) :=
  .inr ⟨rest, rfl⟩

/-- A list that differs from a conjunction within its length does not start there. -/
theorem not_startsWith {k xs : List Mark} (hk : EndsCondition k) (i : Nat) (hx : i < xs.length)
    (hi : i < (Mark.ofString " AND ").length) (h : xs[i] ≠ (Mark.ofString " AND ")[i]) :
    ¬ xs <+: k := by
  rcases hk with rfl | ⟨rest, rfl⟩
  · intro hstart
    rw [List.prefix_nil.mp hstart] at hx
    cases hx
  · exact not_prefix_append i hx hi h rest

end EndsCondition

namespace Untouched

/-- Fragments that hold no type column, neither in front of a separator nor at the end. -/
theorem join {separator : String} {parts : List Fragment} {k : List Mark}
    (hinner : ∀ f ∈ parts, ∀ rest, Untouched (marks f) (Mark.ofString separator ++ rest))
    (hlast : ∀ f ∈ parts, Untouched (marks f) k) :
    Untouched (marks (Fragment.join separator parts)) k := by
  rw [Sql.Fragment.marks_join]
  induction parts with
  | nil => exact nil k
  | cons f rest ih =>
    have htail := ih (fun g hg => hinner g (List.mem_cons_of_mem _ hg))
      (fun g hg => hlast g (List.mem_cons_of_mem _ hg))
    cases rest with
    | nil => simpa using hlast f (List.mem_cons_self ..)
    | cons g rest =>
      rw [List.map_cons, List.map_cons, List.intercalate_cons_cons, List.append_assoc]
      refine append ?_ (append (ofString _ _) htail)
      rw [List.append_assoc]
      exact hinner f (List.mem_cons_self ..) _

/-- A list of literals, since a comma is behind each of them but the last. -/
theorem literals {k : List Mark} (q : Sql.Quote) (texts : List String)
    (hk : ¬ afterTypeLiteral <+: k) : Untouched (marks (literals q texts)) k := by
  refine join ?_ ?_
  · intro f hf rest
    obtain ⟨text, -, rfl⟩ := List.mem_map.mp hf
    exact literal_of_not_startsWith q
      (not_prefix_append 0 (by decide) (by decide) (by decide) _)
  · intro f hf
    obtain ⟨text, -, rfl⟩ := List.mem_map.mp hf
    exact literal_of_not_startsWith q hk

/-- A list of literals between code. -/
theorem enclosed {before after : String} {k : List Mark} (q : Sql.Quote) (texts : List String)
    (h : ∀ k, ¬ afterTypeLiteral <+: Mark.ofString after ++ k) :
    Untouched (marks (code before ++ Sql.Fragment.literals q texts ++ code after)) k := by
  simp only [Sql.Fragment.marks_append, Sql.Fragment.marks_code]
  exact append (append (ofString _ _) (literals q texts (h k))) (ofString _ _)

/-- A membership test, unless it is the one in front of a column name. -/
theorem typeIn {k : List Mark} (type : String) (hk : ¬ Mark.ofString ") AS " <+: k) :
    Untouched (marks (Condition.typeIn type)) k := by
  rw [Condition.typeIn, Sql.Fragment.marks_append, Sql.Fragment.marks_literal,
    Sql.Fragment.marks_code]
  refine append (literal_of_not_startsWith _ ?_) (ofString _ _)
  rw [show afterTypeLiteral = Mark.ofString " IN UNNEST(places.types)" ++ Mark.ofString ") AS " by
    decide, List.prefix_append_right_inj]
  exact hk

/-- Alternatives, unless they stand in front of a column name. -/
theorem anyType {k : List Mark} (types : List String) (hk : ¬ Mark.ofString ") AS " <+: k) :
    Untouched (marks (Fragment.join " OR " (types.map Condition.typeIn))) k := by
  refine join ?_ ?_
  · intro f hf rest
    obtain ⟨type, -, rfl⟩ := List.mem_map.mp hf
    exact typeIn type (not_prefix_append 0 (by decide) (by decide) (by decide) _)
  · intro f hf
    obtain ⟨type, -, rfl⟩ := List.mem_map.mp hf
    exact typeIn type hk

/-- A single literal behind code, at the end of a condition. -/
theorem code_literal {k : List Mark} (text : String) (q : Sql.Quote) (content : String)
    (hk : EndsCondition k) : Untouched (marks (code text ++ literal q content)) k := by
  rw [Sql.Fragment.marks_append, Sql.Fragment.marks_code, Sql.Fragment.marks_literal]
  exact append (ofString _ _)
    (literal_of_not_startsWith q (hk.not_startsWith 1 (by decide) (by decide) (by decide)))

variable {R : Type} [Coordinate R]

/-- No condition holds a type column. -/
theorem condition {k : List Mark} (c : Condition R) (hk : EndsCondition k) :
    Untouched (marks c.toSql) k := by
  cases c with
  | verbatim text => simpa [Condition.toSql] using ofString text k
  | near center meters =>
    simp only [Condition.toSql, Condition.geogPoint, Sql.Fragment.marks_append,
      Sql.Fragment.marks_code]
    exact append (append (ofString _ _) (ofString _ _)) (ofString _ _)
  | insideArea => simpa [Condition.toSql] using ofString _ k
  | alongRoute meters => simpa [Condition.toSql] using ofString _ k
  | region column names =>
    obtain ⟨field, type⟩ := column
    cases type with
    | string =>
      exact enclosed _ _ fun k => not_prefix_append 0 (by decide) (by decide) (by decide) k
    | array =>
      exact enclosed _ _ fun k => not_prefix_append 0 (by decide) (by decide) (by decide) k
  | primaryType types =>
    exact enclosed _ _ fun k => not_prefix_append 0 (by decide) (by decide) (by decide) k
  | anyType types =>
    unfold Condition.toSql
    dsimp only
    split
    · simp only [Sql.Fragment.marks_append, Sql.Fragment.marks_code]
      refine append (append (ofString _ _) (anyType types ?_)) (ofString _ _)
      rw [show Mark.ofString ") AS " = Mark.ofString ")" ++ Mark.ofString " AS " by decide,
        List.prefix_append_right_inj]
      exact hk.not_startsWith 2 (by decide) (by decide) (by decide)
    · exact anyType types (hk.not_startsWith 0 (by decide) (by decide) (by decide))
  | «attribute» name => simpa [Condition.toSql] using ofString _ k
  | rating bound =>
    cases bound <;> simpa [Condition.toSql, Condition.renderRating] using ofString _ k
  | status s => exact code_literal _ _ _ hk
  | brandName names =>
    exact enclosed _ _ fun k => not_prefix_append 0 (by decide) (by decide) (by decide) k
  | brandCategory category => exact code_literal _ _ _ hk
  | hours start finish =>
    have hbound : ∀ {k : List Mark}, EndsCondition k → ∀ f ∈
        (start.map fun t => code "opening_period.start_time <= TIME " ++
            literal .single t.render).toList ++
          (finish.map fun t => code "opening_period.end_time >= TIME " ++
            literal .single t.render).toList, Untouched (marks f) k := by
      intro k hk f hf
      rcases List.mem_append.mp hf with hf | hf
      · obtain ⟨t, -, rfl⟩ := Option.map_eq_some_iff.mp (Option.mem_toList.mp hf)
        exact code_literal _ _ _ hk
      · obtain ⟨t, -, rfl⟩ := Option.map_eq_some_iff.mp (Option.mem_toList.mp hf)
        exact code_literal _ _ _ hk
    exact join (fun f hf rest => hbound (.conjunction rest) f hf) (hbound hk)

/-- No `WHERE` clause holds a type column. -/
theorem whereClause (conditions : List (Condition R)) :
    Untouched (marks (Statement.whereClause conditions)) [] := by
  unfold Statement.whereClause Fragment.whereAll
  split
  · exact nil []
  · rw [Sql.Fragment.marks_append, Sql.Fragment.marks_code]
    refine append (ofString _ _) (join ?_ ?_)
    · intro f hf rest
      obtain ⟨c, -, rfl⟩ := List.mem_map.mp hf
      exact condition c (.conjunction rest)
    · intro f hf
      obtain ⟨c, -, rfl⟩ := List.mem_map.mp hf
      exact condition c .nil

/-- A preamble is declared with a literal of another style. -/
theorem preamble (p : Preamble) (k : List Mark) : Untouched (marks p.toSql) k := by
  cases p with
  | verbatim text => simpa [Preamble.toSql] using ofString text k
  | searchArea wkt =>
    simp only [Preamble.toSql, Preamble.declare, Sql.Fragment.marks_append,
      Sql.Fragment.marks_code, Sql.Fragment.marks_literal]
    exact append (append (ofString _ _) (literal_of_ne (by decide) _)) (ofString _ _)
  | route wkt =>
    simp only [Preamble.toSql, Preamble.declare, Sql.Fragment.marks_append,
      Sql.Fragment.marks_code, Sql.Fragment.marks_literal]
    exact append (append (ofString _ _) (literal_of_ne (by decide) _)) (ofString _ _)

theorem source (s : Source) (k : List Mark) : Untouched (marks s.toSql) k := by
  simp only [Source.toSql, Sql.Fragment.marks_append, Sql.Fragment.marks_code]
  refine append (append (ofString _ _) ?_) ?_
  · cases s.hoursOn with
    | none => exact nil _
    | some day => simpa [hoursSource] using ofString _ _
  · cases s.brands with
    | none => exact nil _
    | some table => simpa using ofString _ _

end Untouched

/-! ## Type columns -/

namespace Counted

/-- The name of the column of a place type. -/
def typeColumnName (type : String) : List Mark := Mark.ofString (columnStem type ++ "_count")

/-- A type column with its name put aside. -/
def typeColumnAside : List Mark := Mark.ofString "COUNTIF(" ++ typeColumnLead ++ [.columnName]

theorem comma_notMem_typeColumnName (type : String) : Mark.char ',' ∉ typeColumnName type := by
  intro h
  rw [typeColumnName, Mark.ofString, String.toList_append, List.map_append, List.mem_append] at h
  rcases h with h | h
  · obtain ⟨c, hc, heq⟩ := List.mem_map.mp h
    obtain rfl := Mark.char.inj heq
    exact absurd (isNamePart_of_mem_columnStem hc) (by decide)
  · revert h
    decide

theorem marks_typeColumn (type : String) :
    marks (typeColumn type) = Mark.ofString "COUNTIF(" ++ typeColumnLead ++ typeColumnName type := by
  simp only [typeColumn, Condition.typeIn, Sql.Fragment.marks_append, Sql.Fragment.marks_code,
    Sql.Fragment.marks_literal, typeColumnLead, typeColumnName]
  rw [show afterTypeLiteral = Mark.ofString " IN UNNEST(places.types)" ++ Mark.ofString ") AS " by
    decide]
  simp [Mark.ofString, toString]

/-- The name of a type column is put aside, up to the comma behind the column. -/
theorem setAside_typeColumn (type : String) (k : List Mark) :
    setAside (marks (typeColumn type) ++ .char ',' :: k) =
      (setAside (.char ',' :: k)).map (typeColumnAside ++ ·) (typeColumnName type :: ·) := by
  rw [marks_typeColumn, List.append_assoc, List.append_assoc,
    Untouched.ofString "COUNTIF(" _, ← List.append_assoc,
    setAside_typeColumnLead (comma_notMem_typeColumnName type)]
  simp [Prod.map, typeColumnAside]

/-- The names of all type columns are put aside; what is left depends on their number only. -/
theorem setAside_typeColumns (types : List String) (k : List Mark) :
    setAside (marks (Fragment.join ",\n  " (types.map typeColumn)) ++ .char ',' :: k) =
      (setAside (.char ',' :: k)).map
        (List.intercalate (Mark.ofString ",\n  ") (types.map fun _ => typeColumnAside) ++ ·)
        (types.map typeColumnName ++ ·) := by
  rw [Sql.Fragment.marks_join]
  induction types with
  | nil => simp [Prod.map]
  | cons type rest ih =>
    cases rest with
    | nil => simpa using setAside_typeColumn type k
    | cons next rest =>
      have hseparator : Mark.ofString ",\n  " = .char ',' :: Mark.ofString "\n  " := by decide
      simp only [List.map_cons, List.intercalate_cons_cons, List.append_assoc] at ih ⊢
      rw [hseparator, List.cons_append, setAside_typeColumn, ← List.cons_append, ← hseparator,
        Untouched.ofString ",\n  " _, ih]
      simp [Prod.map]

end Counted

/-! ## Counting statements -/

theorem intercalate_cons_eq_append_flatMap {α : Type} (separator first : List α)
    (rest : List (List α)) :
    separator.intercalate (first :: rest) = first ++ rest.flatMap (separator ++ ·) := by
  induction rest generalizing first with
  | nil => simp
  | cons next rest ih =>
    rw [List.intercalate_cons_cons, ih, List.flatMap_cons, List.append_assoc, List.append_assoc]

namespace Statement

variable {R : Type} [Coordinate R]

/-- What a counting statement says before the selected columns. -/
def beforeColumns (preamble : Option Preamble) : List Mark :=
  let declared := marks ((preamble.map Preamble.toSql).getD [])
  (if declared.isEmpty then [] else declared ++ Mark.ofString " ") ++
    Mark.ofString s!"SELECT {privacyQualifier} "

/-- What a counting statement says behind the selected columns. -/
def behindColumns (source : Source) (conditions : List (Condition R)) (grouping : Fragment) :
    List Mark :=
  (([source.toSql, whereClause conditions, grouping].map marks).filter fun ms =>
    !ms.isEmpty).flatMap (Mark.ofString " " ++ ·)

theorem marks_count (preamble : Option Preamble) (counted : Counted) (source : Source)
    (conditions : List (Condition R)) :
    marks (count preamble counted source conditions).toSql =
      beforeColumns preamble ++ marks counted.columns ++
        behindColumns source conditions counted.grouping := by
  have hselect : (Mark.ofString s!"SELECT {privacyQualifier} " ++ marks counted.columns).isEmpty =
      false := rfl
  rw [toSql, Sql.Fragment.marks_spaced, List.map_cons, List.map_cons, Sql.Fragment.marks_append,
    Sql.Fragment.marks_code, List.filter_cons, List.filter_cons, hselect]
  unfold beforeColumns behindColumns
  dsimp only
  cases hdeclared : (marks ((preamble.map Preamble.toSql).getD [])).isEmpty with
  | true => simp [intercalate_cons_eq_append_flatMap]
  | false => simp [intercalate_cons_eq_append_flatMap]

theorem untouched_beforeColumns (preamble : Option Preamble) (k : List Mark) :
    Untouched (beforeColumns preamble) k := by
  refine .append ?_ (.ofString _ _)
  split
  · exact .nil _
  · cases preamble with
    | none => exact .append (.nil _) (.ofString _ _)
    | some p => exact .append (.preamble p _) (.ofString _ _)

theorem untouched_behindColumns (source : Source) (conditions : List (Condition R)) :
    Untouched (behindColumns source conditions []) [] := by
  have hwhere := Untouched.whereClause conditions
  unfold behindColumns
  simp only [List.map_cons, List.map_nil, List.filter_cons, Sql.Fragment.marks_nil]
  split
  · rw [List.flatMap_cons]
    refine .append (.append (.ofString _ _) (.source source _)) ?_
    split
    · simpa using Untouched.append (.ofString " " _) hwhere
    · exact .nil _
  · split
    · simpa using Untouched.append (.ofString " " _) hwhere
    · exact .nil _

/-- Putting the names of type columns aside leaves a text that depends on the
    number of types only, and finds one name for each type. -/
theorem setAside_marks_perType (preamble : Option Preamble) (types : List String)
    (source : Source) (conditions : List (Condition R)) :
    setAside (marks (count preamble (.perType types) source conditions).toSql) =
      (beforeColumns preamble ++
          (List.intercalate (Mark.ofString ",\n  ") (types.map fun _ => Counted.typeColumnAside) ++
            Mark.ofString ", COUNT(*) AS total_count") ++
          behindColumns source conditions [],
        types.map Counted.typeColumnName) := by
  have hcolumns : marks (Counted.perType types).columns =
      marks (Fragment.join ",\n  " (types.map Counted.typeColumn)) ++
        .char ',' :: Mark.ofString " COUNT(*) AS total_count" := by
    rw [Counted.columns, Sql.Fragment.marks_append, Sql.Fragment.marks_code]
    rfl
  have htotal := (Untouched.ofString ", COUNT(*) AS total_count" _).append
    (untouched_behindColumns source conditions)
  rw [show Mark.ofString ", COUNT(*) AS total_count" =
    .char ',' :: Mark.ofString " COUNT(*) AS total_count" from rfl] at htotal ⊢
  have hend : setAside (.char ',' :: (Mark.ofString " COUNT(*) AS total_count" ++
      behindColumns source conditions [])) =
        (.char ',' :: (Mark.ofString " COUNT(*) AS total_count" ++
          behindColumns source conditions []), []) := by
    have := htotal
    simp only [Untouched, List.append_nil, List.cons_append] at this
    rw [this]
    simp [setAside, Prod.map]
  rw [marks_count, hcolumns, List.append_assoc, untouched_beforeColumns, List.append_assoc,
    List.cons_append, Counted.setAside_typeColumns, Counted.grouping, hend]
  simp [Prod.map]

end Statement

end PlaceSearch
