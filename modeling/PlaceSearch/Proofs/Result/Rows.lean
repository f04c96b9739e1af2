-- SUMMARY: Rows of a density function: each is taken by itself, so that unreadable rows make no difference and rows added make cells added.
import Mathlib.Data.List.Forall2
import PlaceSearch.Proofs.Result.Arrays
import PlaceSearch.Session.Run

/-!
# Function rows

What becomes of a row depends on the row alone. So the rows that cannot be read may be
put in and taken out anywhere, and the layer of two lists of rows is made of the layers
of both. Only the largest count, against which all cells are colored, is found after the
rows that cannot be read are left out.
-/

namespace PlaceSearch

/-! ## Lists that differ by some items -/

/-- The same lists but for items with a property, which may stand at any positions of
    either list. -/
inductive SameBut {α : Type} (p : α → Prop) : List α → List α → Prop where
  | nil : SameBut p [] []
  | both (x : α) {xs ys : List α} : SameBut p xs ys → SameBut p (x :: xs) (x :: ys)
  | left {x : α} {xs ys : List α} : p x → SameBut p xs ys → SameBut p (x :: xs) ys
  | right {x : α} {xs ys : List α} : p x → SameBut p xs ys → SameBut p xs (x :: ys)

/-- Items for which a partial function has no value do not show in its values. -/
theorem SameBut.filterMap_eq {α β : Type} {p : α → Prop} {f : α → Option β}
    (hnone : ∀ x, p x → f x = none) {xs ys : List α} (h : SameBut p xs ys) :
    xs.filterMap f = ys.filterMap f := by
  induction h with
  | nil => rfl
  | both x _ ih => rw [List.filterMap_cons, List.filterMap_cons, ih]
  | left hx _ ih => rw [List.filterMap_cons_none (hnone _ hx), ih]
  | right hx _ ih => rw [List.filterMap_cons_none (hnone _ hx), ih]

namespace Layer

variable {R : Type} [Coordinate R] {t t' : Table} {row : List Cell}

/-! ## Rows -/

/-- The ways in which the geography of a row cannot be read. -/
inductive IsUnreadable (R : Type) [Coordinate R] (t : Table) (row : List Cell) : Prop where
  | noCell (h : t.RowHas row "geography" 1 none)
  | noScalar (cell : Cell) (h : t.RowHas row "geography" 1 (some cell))
      (hscalar : ∀ text, cell ≠ .scalar text)
  | noPolygon (text : String) (fault : GeometryFault)
      (h : t.RowHas row "geography" 1 (some (.scalar text)))
      (hfault : (Wkt.readRing text : Except GeometryFault (List (Point R))) = .error fault)

/-- Just these rows become no cell. -/
theorem hexagonOfRow?_eq_none_iff :
    (hexagonOfRow? (.ofTable t) row : Option (Hexagon R)) = none ↔ IsUnreadable R t row := by
  constructor
  · intro h
    cases hcell : row[column t "geography" 1]? with
    | none => exact .noCell (rowHas_iff.mpr hcell)
    | some cell =>
      cases htext : cell.text? with
      | none =>
        exact .noScalar cell (rowHas_iff.mpr hcell) (Cell.text?_eq_none_iff.mp htext)
      | some text =>
        obtain rfl := Cell.text?_eq_some_iff.mp htext
        cases hring : (Wkt.readRing text : Except GeometryFault (List (Point R))) with
        | error fault => exact .noPolygon text fault (rowHas_iff.mpr hcell) hring
        | ok ring => simp [hexagonOfRow?, FunctionColumns.ofTable, hcell, htext, hring] at h
  · intro h
    cases h with
    | noCell h => simp [hexagonOfRow?, FunctionColumns.ofTable, rowHas_iff.mp h]
    | noScalar cell h hscalar =>
      simp [hexagonOfRow?, FunctionColumns.ofTable, rowHas_iff.mp h,
        Cell.text?_eq_none_iff.mpr hscalar]
    | noPolygon text fault h hfault =>
      simp [hexagonOfRow?, FunctionColumns.ofTable, rowHas_iff.mp h, Cell.text?, hfault]

instance (t : Table) : DecidablePred (IsUnreadable R t) := fun row =>
  decidable_of_iff ((hexagonOfRow? (.ofTable t) row : Option (Hexagon R)).isNone = true)
    (by rw [Option.isNone_iff_eq_none, hexagonOfRow?_eq_none_iff])

/-- The ring is written in the geography of a row. -/
def Writes (t : Table) (row : List Cell) (ring : List (Point R)) : Prop :=
  ∃ text, t.RowHas row "geography" 1 (some (.scalar text)) ∧ Wkt.readRing text = .ok ring

/-- The places listed in a row, whatever they are. -/
inductive Lists (t : Table) (row : List Cell) : List Cell → Prop where
  | listed (places : List Cell) (h : t.RowHas row "place_ids" 3 (some (.array places))) :
      Lists t row places
  | unlisted (h : ∀ places, ¬ t.RowHas row "place_ids" 3 (some (.array places))) : Lists t row []

/-- The cell shows what is written in a row. -/
structure ShowsRow (t : Table) (row : List Cell) (x : Hexagon R) : Prop where
  ring : Writes t row x.ring
  /-- The index is the scalar under its name. -/
  index : ∀ text, x.index = some text ↔ t.RowHas row "h3_cell_index" 0 (some (.scalar text))
  /-- What is negative, no integer or not there is zero. -/
  count : ∃ cell, t.RowHas row "count" 2 cell ∧
    (x.count : Int) = max 0 ((cell.bind Cell.int?).getD 0)
  /-- The scalars among the places, in order. -/
  placeIds : ∃ places, Lists t row places ∧ x.placeIds.map Cell.scalar = places.filter Cell.isScalar

omit [Coordinate R] in
theorem map_scalar_filterMap_text? (cells : List Cell) :
    (cells.filterMap Cell.text?).map Cell.scalar = cells.filter Cell.isScalar := by
  induction cells with
  | nil => rfl
  | cons cell cells ih =>
    rw [List.filterMap_cons, List.filter_cons, ← ih]
    cases cell <;> rfl

/-- The places that are looked up are those listed. -/
theorem lists_items? (t : Table) (row : List Cell) :
    Lists t row ((row[column t "place_ids" 3]?.bind Cell.items?).getD []) := by
  cases hitems : row[column t "place_ids" 3]?.bind Cell.items? with
  | none =>
    refine .unlisted fun places hplaces => ?_
    rw [rowHas_iff.mp hplaces] at hitems
    cases hitems
  | some places =>
    obtain ⟨cell, hcell, hplaces⟩ := Option.bind_eq_some_iff.mp hitems
    obtain rfl := Cell.items?_eq_some_iff.mp hplaces
    exact .listed places (rowHas_iff.mpr hcell)

theorem showsRow_of_hexagonOfRow? {x : Hexagon R} (h : hexagonOfRow? (.ofTable t) row = some x) :
    ShowsRow t row x := by
  obtain ⟨text, htext, h⟩ := Option.bind_eq_some_iff.mp h
  obtain ⟨cell, hcell, hscalar⟩ := Option.bind_eq_some_iff.mp htext
  obtain rfl := Cell.text?_eq_some_iff.mp hscalar
  split at h
  · cases h
  · next ring hring =>
    cases h
    constructor
    case ring => exact ⟨text, rowHas_iff.mpr hcell, hring⟩
    case index =>
      intro index
      rw [rowHas_iff, Option.bind_eq_some_iff]
      constructor
      · rintro ⟨cell, hindex, hscalar⟩
        rwa [Cell.text?_eq_some_iff.mp hscalar] at hindex
      · intro hindex
        exact ⟨_, hindex, rfl⟩
    case count =>
      refine ⟨_, rowHas_iff.mpr rfl, ?_⟩
      change (((row[column t "count" 2]?.map Cell.count).getD 0 : Nat) : Int) = _
      cases row[column t "count" 2]? with
      | none => rfl
      | some cell => simp [Cell.count, Int.max_comm]
    case placeIds => exact ⟨_, lists_items? t row, map_scalar_filterMap_text? _⟩

/-! ## Tables -/

theorem ofTable_eq_of_fields (h : t'.fields = t.fields) :
    FunctionColumns.ofTable t' = .ofTable t := by
  simp only [FunctionColumns.ofTable, column, Table.position?, h]

/-- One cell for each row that can be read, in order, and each shows its own row. -/
theorem showsRow_cells_ofRows? (t : Table) :
    List.Forall₂ (ShowsRow t) (t.rows.filter fun row => ¬ IsUnreadable R t row)
      (cells (ofRows? t) : List (Hexagon R)) := by
  have hreadable : (t.rows.filter fun row => ¬ IsUnreadable R t row) =
      t.rows.filter fun row => (hexagonOfRow? (R := R) (.ofTable t) row).isSome := by
    apply List.filter_congr
    intro row _
    rw [Bool.eq_iff_iff, decide_eq_true_iff, ← hexagonOfRow?_eq_none_iff,
      Option.isSome_iff_ne_none]
  rw [hreadable, ofRows?, cells_ofHexagons?]
  apply (forall₂_filterMap (hexagonOfRow? (.ofTable t)) t.rows).imp
  intro row x h
  exact showsRow_of_hexagonOfRow? h

/-- A layer that is made of two, of which either may be missing. -/
structure Appends (first second whole : Option (Layer R)) : Prop where
  cells_eq : cells whole = cells first ++ cells second
  largest_eq : largest whole = max (largest first) (largest second)
  none_iff : whole = none ↔ first = none ∧ second = none

omit [Coordinate R] in
theorem appends_ofHexagons? (hexagons hexagons' : List (Hexagon R)) :
    Appends (ofHexagons? hexagons) (ofHexagons? hexagons')
      (ofHexagons? (hexagons ++ hexagons')) where
  cells_eq := by simp only [cells_ofHexagons?]
  largest_eq := by simp only [largest_ofHexagons?, maxCount_append]
  none_iff := by simp only [ofHexagons?_eq_none_iff, List.append_eq_nil_iff]

/-- What is shown for a layer. -/
def displayOf : Option (Layer R) → Display R
  | none => .noCells
  | some l => .density l

/-- Every row of a function result is taken by itself. -/
structure IsolatesRows (R : Type) [Coordinate R] (t : Table) : Prop where
  /-- A run that gets the result of a function shows its layer, whatever is in it. -/
  shows : ∀ (ringOf : String → Option (List (Point R))) (center : Point R),
    ∃ message, Run.interpret ringOf .function center t = .ok (displayOf (ofRows? t), message)
  /-- Rows that cannot be read may be put in and taken out anywhere: the layer is the same,
      and with it the order of the cells, the largest count and the colors. -/
  ignores : ∀ t' : Table, t'.fields = t.fields →
    SameBut (IsUnreadable R t) t.rows t'.rows →
      (ofRows? t' : Option (Layer R)) = ofRows? t
  /-- Rows behind rows make cells behind cells. -/
  appends : ∀ t' whole : Table, t'.fields = t.fields → whole.fields = t.fields →
    whole.rows = t.rows ++ t'.rows → Appends (R := R) (ofRows? t) (ofRows? t') (ofRows? whole)
  /-- One cell for each row that can be read, in order. -/
  rows : List.Forall₂ (ShowsRow t) (t.rows.filter fun row => ¬ IsUnreadable R t row)
    (cells (ofRows? t) : List (Hexagon R))

theorem isolatesRows (t : Table) : IsolatesRows R t where
  shows ringOf center := by
    rw [Run.interpret]
    cases (ofRows? t : Option (Layer R)) with
    | none => exact ⟨_, rfl⟩
    | some l => exact ⟨_, rfl⟩
  ignores t' hfields hrows := by
    have hsame := hrows.filterMap_eq fun row h => hexagonOfRow?_eq_none_iff.mpr h
    rw [ofRows?, ofRows?, ofTable_eq_of_fields hfields, hsame]
  appends t' whole hfields hwhole hrows := by
    rw [ofRows?, ofRows?, ofRows?, ofTable_eq_of_fields hfields, ofTable_eq_of_fields hwhole, hrows,
      List.filterMap_append]
    exact appends_ofHexagons? _ _
  rows := showsRow_cells_ofRows? t

end Layer

end PlaceSearch
