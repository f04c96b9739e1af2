-- SUMMARY: Each condition reads as a conjunction by itself, and a WHERE clause as the conjunction of its conditions.
import PlaceSearch.Proofs.Query.Scan
import PlaceSearch.Proofs.Sql.Grouping

/-!
# Conjunctions of predicates

A `WHERE` clause is written by joining predicates with `AND`, without
parentheses around them. That is right only because each predicate keeps its own
alternatives in parentheses and its texts in literals. Here each kind of
condition is shown to read as a conjunction by itself; the clause of a statement
then reads as the conjunction of all of them, whatever texts a user chose.
-/

namespace PlaceSearch

open Sql (Mark Fragment Balanced IsWord IsTerm IsFactor IsConjunction)
open Sql.Fragment (marks code literal literals)

/-! ## Words of conditions -/

/-- The characters of names and numbers neither open nor close parentheses and
    are no spaces. -/
theorem Sql.IsWord.ofString {text : String}
    (h : ∀ c ∈ text.toList, Sql.isNamePart c = true ∨ isNumberChar c = true) :
    IsWord (Mark.ofString text) := by
  refine .flat fun m hm => ?_
  obtain ⟨c, hc, rfl⟩ := List.mem_map.mp hm
  have hc := h c hc
  have hne : c ≠ '(' ∧ c ≠ ')' ∧ c ≠ ' ' := by
    refine ⟨?_, ?_, ?_⟩ <;> rintro rfl <;> revert hc <;> decide
  refine ⟨?_, fun heq => hne.2.2 (Mark.char.inj heq)⟩
  unfold Mark.nesting
  split
  · next heq => exact absurd (Mark.char.inj heq) hne.1
  · next heq => exact absurd (Mark.char.inj heq) hne.2.1
  · rfl

theorem Sql.Identifier.isWord_name (i : Identifier) : IsWord (Mark.ofString i.name) :=
  .ofString fun _ hc => .inl (i.isNamePart_of_mem hc)

theorem isWord_natRepr (n : Nat) : IsWord (Mark.ofString n.repr) := by
  refine .ofString fun c hc => .inl ?_
  simp [Sql.isNamePart, Char.isAlphanum, Sql.isDigit_of_mem_natRepr hc]

theorem isWord_plainNumber (x : Float) : IsWord (Mark.ofString (plainNumber x)) :=
  .ofString fun _ hc => .inr (isNumberChar_of_mem_plainNumber hc)

/-- A number is none of the words that join. -/
theorem isTerm_plainNumber (x : Float) : IsTerm (Mark.ofString (plainNumber x)) := by
  have hne : ∀ (text : String) (c : Char), c ∈ text.toList → isNumberChar c = false →
      Mark.ofString (plainNumber x) ≠ Mark.ofString text := by
    intro text c hc hnumber heq
    have hmem : Mark.char c ∈ Mark.ofString (plainNumber x) := heq ▸ List.mem_map_of_mem hc
    obtain ⟨d, hd, hdc⟩ := List.mem_map.mp hmem
    obtain rfl := Mark.char.inj hdc
    rw [isNumberChar_of_mem_plainNumber hd] at hnumber
    cases hnumber
  exact {
    toIsWord := isWord_plainNumber x
    ne_orWord := hne "OR" 'O' (by decide) (by decide)
    ne_andWord := hne "AND" 'A' (by decide) (by decide)
    ne_betweenWord := hne "BETWEEN" 'B' (by decide) (by decide) }

/-- A list of literals holds no parentheses, whatever the texts hold. -/
theorem balanced_literals (q : Sql.Quote) (texts : List String) :
    Balanced (marks (literals q texts)) := by
  rw [Sql.Fragment.literals, Sql.Fragment.marks_join]
  refine .intercalate (.flat (by decide)) fun p hp => ?_
  obtain ⟨f, hf, rfl⟩ := List.mem_map.mp hp
  obtain ⟨text, -, rfl⟩ := List.mem_map.mp hf
  exact (Sql.isTerm_literal q).toBalanced

/-- A column of the places is a word. -/
theorem isTerm_placesColumn (field : Sql.Identifier) :
    IsTerm (Mark.ofString "places." ++ Mark.ofString field.name) :=
  ((IsWord.flat (by decide)).append field.isWord_name).isTerm
    (Sql.startsTerm_append (by decide) _)

/-- Membership in a list of literals. -/
theorem isFactor_inList {value : List Mark} (hvalue : IsTerm value) (q : Sql.Quote)
    (texts : List String) :
    IsFactor [value, Mark.ofString "IN", .char '(' :: (marks (literals q texts) ++ [.char ')'])] := by
  have hin : IsTerm (Mark.ofString "IN") := Sql.isTerm_of_isPlain (by decide)
  have hlist := (IsWord.parens (balanced_literals q texts)).isTerm rfl
  exact .relation hvalue hin hlist

/-- Equality with a literal. -/
theorem isFactor_equals {value : List Mark} (hvalue : IsTerm value) (q : Sql.Quote) :
    IsFactor [value, Mark.ofString "=", [.literal q]] := by
  have hequals : IsTerm (Mark.ofString "=") := Sql.isTerm_of_isPlain (by decide)
  exact .relation hvalue hequals (Sql.isTerm_literal q)

/-! ## Conditions -/

namespace Condition

variable {R : Type} [Coordinate R]

omit [Coordinate R] in
/-- The condition says something: it is built, types are given to choose from,
    and hours have a start or an end. -/
def IsWritten : Condition R → Prop
  | .verbatim _ => False
  | .anyType types => types ≠ []
  | .hours start finish => start ≠ none ∨ finish ≠ none
  | _ => True

omit [Coordinate R] in
theorem isConjunction_typeIn (type : String) : IsConjunction (marks (typeIn type)) := by
  have hin : IsTerm (Mark.ofString "IN") := Sql.isTerm_of_isPlain (by decide)
  have hunnest : IsTerm (Mark.ofString "UNNEST" ++
      .char '(' :: (Mark.ofString "places.types" ++ [.char ')'])) :=
    Sql.isTerm_call (by decide) (.flat (by decide))
  exact (IsFactor.relation (Sql.isTerm_literal .single) hin hunnest).isConjunction
    (by simp [typeIn, Mark.ofString])

omit [Coordinate R] in
/-- Alternatives are balanced, so in parentheses they are one word. -/
theorem balanced_alternatives (types : List String) :
    Balanced (marks (Fragment.join " OR " (types.map typeIn))) := by
  rw [Sql.Fragment.marks_join]
  refine .intercalate (.flat (by decide)) fun p hp => ?_
  obtain ⟨f, hf, rfl⟩ := List.mem_map.mp hp
  obtain ⟨type, -, rfl⟩ := List.mem_map.mp hf
  exact (isConjunction_typeIn type).balanced

theorem isConjunction_near (hrender : ∀ x : R, IsWord (Mark.ofString (Coordinate.render x)))
    (center : Point R) (meters : Nat) : IsConjunction (marks (near center meters).toSql) := by
  have hpoint : IsTerm (Mark.ofString "ST_GEOGPOINT" ++ .char '(' ::
      ((Mark.ofString (Coordinate.render center.lng) ++ Mark.ofString ", " ++
        Mark.ofString (Coordinate.render center.lat)) ++ [.char ')'])) :=
    Sql.isTerm_call (by decide) (((hrender center.lng).toBalanced.append
      (.flat (by decide))).append (hrender center.lat).toBalanced)
  have hrest : Balanced (Mark.ofString ", places.point, " ++ Mark.ofString meters.repr) :=
    (Balanced.flat (by decide)).append (isWord_natRepr meters).toBalanced
  have hname : Sql.isPlain (Mark.ofString "ST_DWITHIN") = true := by decide
  refine (Sql.isTerm_call hname (hpoint.toBalanced.append hrest)).isConjunction ?_
  simp [toSql, geogPoint, toString, Mark.ofString]

omit [Coordinate R] in
theorem isConjunction_renderRating (bound : RatingBound) :
    IsConjunction (marks (renderRating bound)) := by
  have hrating : IsTerm (Mark.ofString "places.rating") := Sql.isTerm_of_isPlain (by decide)
  cases bound with
  | between min max =>
    refine (IsFactor.between hrating (isTerm_plainNumber min)
      (isTerm_plainNumber max)).isConjunction ?_
    simp [renderRating, toString, Sql.betweenWord, Sql.andWord, Mark.ofString]
  | atLeast min =>
    have hword : IsTerm (Mark.ofString ">=") := Sql.isTerm_of_isPlain (by decide)
    refine (IsFactor.relation hrating hword (isTerm_plainNumber min)).isConjunction ?_
    simp [renderRating, toString, Mark.ofString]
  | atMost max =>
    have hword : IsTerm (Mark.ofString "<=") := Sql.isTerm_of_isPlain (by decide)
    refine (IsFactor.relation hrating hword (isTerm_plainNumber max)).isConjunction ?_
    simp [renderRating, toString, Mark.ofString]

omit [Coordinate R] in
/-- A bound of the opening hours is compared with a time. -/
theorem isConjunction_hoursBound {text : String} {column word : List Mark}
    (hcolumn : IsTerm column) (hword : IsTerm word)
    (htext : Mark.ofString text = Sql.sentence [column, word, Mark.ofString "TIME"] ++ [.char ' '])
    (time : String) : IsConjunction (marks (code text ++ literal .single time)) := by
  have htime : IsTerm (Mark.ofString "TIME") := Sql.isTerm_of_isPlain (by decide)
  have hwords : ∀ w ∈ [column, word, Mark.ofString "TIME", [.literal .single]], IsTerm w := by
    simpa using ⟨hcolumn, hword, htime, Sql.isTerm_literal .single⟩
  refine (IsFactor.terms (List.cons_ne_nil _ _) hwords).isConjunction ?_
  simp [htext]

/-- A list of texts is compared with the column, or with each value in it. -/
theorem isConjunction_region (column : RegionColumn) (names : List String) :
    IsConjunction (marks (region column names : Condition R).toSql) := by
  obtain ⟨field, type⟩ := column
  cases type with
  | string =>
    refine (isFactor_inList (isTerm_placesColumn field) .single names).isConjunction ?_
    simp [toSql, toString, Mark.ofString]
  | array =>
    have hunnest : Balanced (Mark.ofString "UNNEST" ++ .char '(' ::
        ((Mark.ofString "places." ++ Mark.ofString field.name) ++ [.char ')'])) :=
      (Sql.isTerm_call (by decide) (isTerm_placesColumn field).toBalanced).toBalanced
    have hselect : Balanced (Mark.ofString "SELECT 1 FROM ") := .flat (by decide)
    have hnamed : Balanced (Mark.ofString " AS name WHERE name IN ") := .flat (by decide)
    have hlist := (IsWord.parens (balanced_literals .single names)).toBalanced
    have hquery := ((hselect.append hunnest).append hnamed).append hlist
    have hgroup : IsTerm _ := (IsWord.parens hquery).isTerm rfl
    have hexists : IsTerm (Mark.ofString "EXISTS") := Sql.isTerm_of_isPlain (by decide)
    have hwords := List.forall_mem_cons.mpr ⟨hexists, List.forall_mem_singleton.mpr hgroup⟩
    refine (IsFactor.terms (List.cons_ne_nil _ _) hwords).isConjunction ?_
    simp [toSql, toString, Mark.ofString]

/-- A single alternative stands without parentheses, and needs none. -/
theorem isConjunction_anyType {types : List String} (h : types ≠ []) :
    IsConjunction (marks (anyType types : Condition R).toSql) := by
  cases types with
  | nil => exact absurd rfl h
  | cons type rest =>
    cases rest with
    | nil => simpa [toSql] using isConjunction_typeIn type
    | cons next rest =>
      have hgroup := (IsWord.parens (balanced_alternatives (type :: next :: rest))).isTerm rfl
      refine hgroup.isConjunction ?_
      simp [toSql, Mark.ofString]

/-- The one condition of two factors: a start and an end are joined with `AND`. -/
theorem isConjunction_hours {start finish : Option ClockTime} (h : start ≠ none ∨ finish ≠ none) :
    IsConjunction (marks (hours start finish : Condition R).toSql) := by
  rw [toSql, Sql.Fragment.marks_join]
  refine (Sql.Conjoins.intercalate ?_ fun p hp => ?_).isConjunction
  · cases start with
    | some t => simp
    | none => simpa using h
  · simp only [List.mem_map, List.mem_append, Option.mem_toList, Option.map_eq_some_iff] at hp
    rcases hp with ⟨_, ⟨t, -, rfl⟩ | ⟨t, -, rfl⟩, rfl⟩
    · have hcolumn : IsTerm (Mark.ofString "opening_period.start_time") :=
        Sql.isTerm_of_isPlain (by decide)
      have hword : IsTerm (Mark.ofString "<=") := Sql.isTerm_of_isPlain (by decide)
      exact isConjunction_hoursBound hcolumn hword (by simp [Mark.ofString]) _
    · have hcolumn : IsTerm (Mark.ofString "opening_period.end_time") :=
        Sql.isTerm_of_isPlain (by decide)
      have hword : IsTerm (Mark.ofString ">=") := Sql.isTerm_of_isPlain (by decide)
      exact isConjunction_hoursBound hcolumn hword (by simp [Mark.ofString]) _

theorem isConjunction_toSql (hrender : ∀ x : R, IsWord (Mark.ofString (Coordinate.render x)))
    {c : Condition R} (h : c.IsWritten) : IsConjunction (marks c.toSql) := by
  cases c with
  | verbatim text => exact h.elim
  | near center meters => exact isConjunction_near hrender center meters
  | insideArea =>
    have hname : Sql.isPlain (Mark.ofString "ST_CONTAINS") = true := by decide
    have hinner : Balanced (Mark.ofString "search_area, places.point") := .flat (by decide)
    refine (Sql.isTerm_call hname hinner).isConjunction ?_
    simp [toSql, Mark.ofString]
  | alongRoute meters =>
    have hname : Sql.isPlain (Mark.ofString "ST_DWITHIN") = true := by decide
    have hinner : Balanced (Mark.ofString "route, places.point, " ++ Mark.ofString meters.repr) :=
      (Balanced.flat (by decide)).append (isWord_natRepr meters).toBalanced
    refine (Sql.isTerm_call hname hinner).isConjunction ?_
    simp [toSql, toString, Mark.ofString]
  | region column names => exact isConjunction_region column names
  | primaryType types =>
    have hcolumn : IsTerm (Mark.ofString "places.primary_type") := Sql.isTerm_of_isPlain (by decide)
    refine (isFactor_inList hcolumn .single types).isConjunction ?_
    simp [toSql, Mark.ofString]
  | anyType types => exact isConjunction_anyType h
  | «attribute» name =>
    have hequals : IsTerm (Mark.ofString "=") := Sql.isTerm_of_isPlain (by decide)
    have htrue : IsTerm (Mark.ofString "TRUE") := Sql.isTerm_of_isPlain (by decide)
    refine (IsFactor.relation (isTerm_placesColumn name) hequals htrue).isConjunction ?_
    simp [toSql, toString, Mark.ofString]
  | rating bound => exact isConjunction_renderRating bound
  | status s =>
    have hcolumn : IsTerm (Mark.ofString "places.business_status") :=
      Sql.isTerm_of_isPlain (by decide)
    exact (isFactor_equals hcolumn .single).isConjunction (by simp [toSql, Mark.ofString])
  | brandName names =>
    have hcolumn : IsTerm (Mark.ofString "brands.name") := Sql.isTerm_of_isPlain (by decide)
    refine (isFactor_inList hcolumn .double names).isConjunction ?_
    simp [toSql, Mark.ofString]
  | brandCategory category =>
    have hcolumn : IsTerm (Mark.ofString "brands.category") := Sql.isTerm_of_isPlain (by decide)
    exact (isFactor_equals hcolumn .double).isConjunction (by simp [toSql, Mark.ofString])
  | hours start finish => exact isConjunction_hours h

end Condition

variable {R : Type}

theorem Condition.IsWritten.isVerbatim_eq {c : Condition R} (h : c.IsWritten) :
    c.isVerbatim = false := by
  cases c with
  | verbatim text => exact h.elim
  | _ => rfl

/-! ## Clauses -/

/-- The clause says the predicates in turn and reads as their conjunction. The
    masks are what a scanner sees of each of them. -/
structure Conjunction (clause : String) (predicates : List String) (masks : List (List Mark)) :
    Prop where
  /-- The predicates stand in the clause as they are. -/
  clause_eq : clause = "WHERE " ++ " AND ".intercalate predicates
  /-- A scanner is outside literals behind each predicate. -/
  mask_predicates : predicates.map Sql.mask = masks.map some
  mask_clause : Sql.mask clause =
    some (Mark.ofString "WHERE " ++ (Mark.ofString " AND ").intercalate masks)
  /-- The depth of parentheses never falls below zero. -/
  balanced : Balanced (Mark.ofString "WHERE " ++ (Mark.ofString " AND ").intercalate masks)
  /-- The depth is zero behind every predicate. -/
  depth_eq : ∀ front back, masks = front ++ back →
    (Mark.ofString " AND ").intercalate front <+: (Mark.ofString " AND ").intercalate masks ∧
      Sql.depth (Mark.ofString "WHERE " ++ (Mark.ofString " AND ").intercalate front) = 0
  /-- No `OR` is outside parentheses. -/
  orWord_notMem : Sql.orWord ∉
    Sql.topWords (Mark.ofString "WHERE " ++ (Mark.ofString " AND ").intercalate masks)
  /-- A predicate by itself is one alternative, a conjunction of factors. -/
  grouped_predicate : ∀ p ∈ masks, Balanced p ∧ Sql.orWord ∉ Sql.topWords p ∧
    Sql.grouped p = [Sql.factors (Sql.topWords p)]
  /-- All predicates together are one alternative, the conjunction of the same
      factors in turn. -/
  grouped_eq : Sql.grouped ((Mark.ofString " AND ").intercalate masks) =
    [masks.flatMap fun p => Sql.factors (Sql.topWords p)]

theorem Sql.Fragment.render_join (separator : String) (parts : List Fragment) :
    (join separator parts).render = separator.intercalate (parts.map render) := by
  unfold join
  induction parts with
  | nil => simp
  | cons f rest ih =>
    cases rest with
    | nil => simp
    | cons g rest =>
      rw [List.intercalate_cons_cons, render_append, render_append, ih]
      simp [String.intercalate_cons_cons, code, Piece.render]

namespace Statement

variable [Coordinate R]

/-- Conditions that are written are joined without regrouping them. -/
theorem conjunction_whereClause (hbare : ∀ x : R, Sql.Bare (Coordinate.render x))
    (hrender : ∀ x : R, IsWord (Mark.ofString (Coordinate.render x)))
    {conditions : List (Condition R)} (hne : conditions ≠ []) (h : ∀ c ∈ conditions, c.IsWritten) :
    Conjunction (whereClause conditions).render (conditions.map fun c => c.toSql.render)
      (conditions.map fun c => marks c.toSql) := by
  have hclause : whereClause conditions =
      code "WHERE " ++ Fragment.join " AND " (conditions.map Condition.toSql) := by
    rw [whereClause, Fragment.whereAll, if_neg (by simpa using hne)]
  have hmarks : marks (whereClause conditions) = Mark.ofString "WHERE " ++
      (Mark.ofString " AND ").intercalate (conditions.map fun c => marks c.toSql) := by
    rw [hclause, Sql.Fragment.marks_append, Sql.Fragment.marks_code, Sql.Fragment.marks_join,
      List.map_map]
    rfl
  have hverbatim : ∀ c ∈ conditions, c.isVerbatim = false := fun c hc => (h c hc).isVerbatim_eq
  have hpart : ∀ p ∈ conditions.map fun c => marks c.toSql, IsConjunction p := by
    intro p hp
    obtain ⟨c, hc, rfl⟩ := List.mem_map.mp hp
    exact Condition.isConjunction_toSql hrender (h c hc)
  have hjoined := Sql.Conjoins.intercalate (by simpa using hne) hpart
  have hwhere : Balanced (Mark.ofString "WHERE ") := .flat (by decide)
  have hwords : Sql.topWords (Mark.ofString "WHERE " ++
      (Mark.ofString " AND ").intercalate (conditions.map fun c => marks c.toSql)) =
        Mark.ofString "WHERE" ::
          Sql.topWords ((Mark.ofString " AND ").intercalate
            (conditions.map fun c => marks c.toSql)) := by
    rw [show Mark.ofString "WHERE " = Mark.ofString "WHERE" ++ [.char ' '] by decide,
      List.append_assoc, List.singleton_append]
    exact (IsWord.flat (by decide)).topWords_append _
  exact {
    clause_eq := by
      rw [hclause, Sql.Fragment.render_append, Sql.Fragment.render_join, List.map_map]
      simp [code, Sql.Piece.render, Function.comp_def]
    mask_predicates := by
      rw [List.map_map, List.map_map]
      refine List.map_congr_left fun c hc => ?_
      exact Sql.Fragment.mask_render (Condition.closed_toSql hbare (hverbatim c hc)).scannable
    mask_clause := by
      rw [← hmarks]
      exact Sql.Fragment.mask_render (closed_whereClause hbare hverbatim).scannable
    balanced := hwhere.append hjoined.balanced
    depth_eq := by
      intro front back heq
      rw [heq] at hpart ⊢
      have hfront : Balanced ((Mark.ofString " AND ").intercalate front) :=
        .intercalate (.flat (by decide)) fun p hp =>
          (hpart p (List.mem_append_left back hp)).balanced
      exact ⟨Sql.intercalate_prefix_append _ front back, (hwhere.append hfront).closed⟩
    orWord_notMem := by
      rw [hwords]
      intro hor
      rcases List.mem_cons.mp hor with heq | hor
      · revert heq
        decide
      · exact hjoined.orWord_notMem hor
    grouped_predicate := fun p hp =>
      ⟨(hpart p hp).balanced, (hpart p hp).orWord_notMem, (hpart p hp).grouped_eq⟩
    grouped_eq := hjoined.grouped_eq }

end Statement

end PlaceSearch
