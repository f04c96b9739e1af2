-- SUMMARY: Parallel arrays of a density result: when they are refused, when nothing is drawn, and that every cell keeps the count of its own position.
import PlaceSearch.Proofs.Result.Column
import PlaceSearch.Proofs.Result.Layer

/-!
# Parallel arrays

The cells of a layer belong to the positions of the indices that can be read, in order.
Each takes its count from the same position of the other array, no matter how many
indices before it are left out. What an index is and where its cell lies is up to the
function that gives the ring of a text, which may be any.
-/

namespace PlaceSearch

/-! ## Positions of a list -/

/-- What a partial function gives for the items of a list, it gives for the positions. -/
theorem filterMap_eq_filterMap_range {α β : Type} (f : α → Option β) (xs : List α) :
    xs.filterMap f = (List.range xs.length).filterMap fun i => xs[i]?.bind f := by
  induction xs with
  | nil => rfl
  | cons x xs ih =>
    rw [List.length_cons, List.range_succ_eq_map, List.filterMap_cons, List.filterMap_cons,
      List.filterMap_map, ih]
    rfl

/-- The values of a partial function are those at the items for which it has one. -/
theorem forall₂_filterMap {α β : Type} (f : α → Option β) (xs : List α) :
    List.Forall₂ (fun x y => f x = some y) (xs.filter fun x => (f x).isSome) (xs.filterMap f) := by
  induction xs with
  | nil => exact .nil
  | cons x xs ih =>
    cases hx : f x with
    | none => simpa [hx] using ih
    | some y => simpa [hx] using ih

namespace Layer

variable {R : Type} {ringOf : String → Option (List (Point R))} {t : Table}
  {indices counts : List Cell}

/-! ## What a table has -/

/-- The table has indices: a list that has a first item, which is not null. -/
structure HasIndices (t : Table) (indices : List Cell) : Prop where
  cell : t.FirstRowHas "indices" 0 (some (.array indices))
  lead : ∃ first ∈ indices.head?, first ≠ .null

/-- The ways in which a table has no indices. -/
inductive LacksIndices (t : Table) : Prop where
  | noRow (h : t.rows = [])
  | noCell (h : t.FirstRowHas "indices" 0 none)
  | noList (cell : Cell) (h : t.FirstRowHas "indices" 0 (some cell))
      (hlist : ∀ items, cell ≠ .array items)
  | empty (h : t.FirstRowHas "indices" 0 (some (.array [])))
  | ledByNull (rest : List Cell) (h : t.FirstRowHas "indices" 0 (some (.array (.null :: rest))))

/-- The table has a list of counts. -/
def HasCounts (t : Table) (counts : List Cell) : Prop :=
  t.FirstRowHas "counts" 1 (some (.array counts))

theorem hasIndices_or_lacksIndices (t : Table) :
    (∃ indices, HasIndices t indices) ∨ LacksIndices t := by
  cases hrow : t.rows.head? with
  | none => exact Or.inr (.noRow (List.head?_eq_none_iff.mp hrow))
  | some row =>
    have hhas {cell : Option Cell} (h : row[column t "indices" 0]? = cell) :
        t.FirstRowHas "indices" 0 cell := firstRowHas_iff.mpr ⟨row, hrow, h⟩
    cases hcell : row[column t "indices" 0]? with
    | none => exact Or.inr (.noCell (hhas hcell))
    | some cell =>
      cases hitems : cell.items? with
      | none => exact Or.inr (.noList cell (hhas hcell) (Cell.items?_eq_none_iff.mp hitems))
      | some items =>
        obtain rfl := Cell.items?_eq_some_iff.mp hitems
        cases items with
        | nil => exact Or.inr (.empty (hhas hcell))
        | cons first rest =>
          by_cases hfirst : first = .null
          · subst hfirst
            exact Or.inr (.ledByNull rest (hhas hcell))
          · exact Or.inl ⟨_, hhas hcell, first, rfl, hfirst⟩

/-! ## What becomes of a table -/

theorem ofArrays_of_lacksIndices (h : LacksIndices t) : ofArrays ringOf t = .ok none := by
  cases h with
  | noRow h => simp [ofArrays, h]
  | noCell h =>
    obtain ⟨row, hrow, hcell⟩ := firstRowHas_iff.mp h
    simp [ofArrays, hrow, hcell]
  | noList cell h hlist =>
    obtain ⟨row, hrow, hcell⟩ := firstRowHas_iff.mp h
    simp [ofArrays, hrow, hcell, Cell.items?_eq_none_iff.mpr hlist]
  | empty h =>
    obtain ⟨row, hrow, hcell⟩ := firstRowHas_iff.mp h
    simp [ofArrays, hrow, hcell, Cell.items?]
  | ledByNull rest h =>
    obtain ⟨row, hrow, hcell⟩ := firstRowHas_iff.mp h
    simp [ofArrays, hrow, hcell, Cell.items?]

/-- The cells of two arrays, position by position. -/
def paired (ringOf : String → Option (List (Point R))) (indices counts : List Cell) :
    List (Hexagon R) :=
  (indices.zip counts).filterMap fun (index, count) => hexagonOf? ringOf index count

/-- With indices, it depends on the counts of the same row. -/
theorem ofArrays_of_hasIndices (ringOf : String → Option (List (Point R)))
    (h : HasIndices t indices) :
    ∃ cell, t.FirstRowHas "counts" 1 cell ∧
      ofArrays ringOf t =
        match cell.bind Cell.items? with
        | none => .error (.missingColumn "counts")
        | some counts =>
          if indices.length = counts.length then .ok (ofHexagons? (paired ringOf indices counts))
          else .error (.mismatchedArrays indices.length counts.length) := by
  obtain ⟨hcell, first, hfirst, hnull⟩ := h
  obtain ⟨row, hrow, hindex⟩ := firstRowHas_iff.mp hcell
  obtain ⟨rest, rfl⟩ := List.head?_eq_some_iff.mp hfirst
  refine ⟨_, firstRowHas_iff.mpr ⟨row, hrow, rfl⟩, ?_⟩
  simp only [ofArrays, hrow, hindex, Option.bind_some, Cell.items?]
  split
  · next h => cases h
  · next h => cases h
  · next h =>
    cases h
    exact absurd rfl hnull
  · next h =>
    cases h
    rfl

/-! ## Cells and positions -/

/-- The ring of the index at a position, if the index is one. -/
def ringAt? (ringOf : String → Option (List (Point R))) (indices : List Cell) (i : Nat) :
    Option (List (Point R)) :=
  match indices[i]? with
  | some (.scalar text) => ringOf text
  | _ => none

theorem ringAt?_eq (i : Nat) :
    ringAt? ringOf indices i = (indices[i]?.bind Cell.text?).bind ringOf := by
  unfold ringAt?
  split
  · next text hindex => simp [hindex, Cell.text?]
  · next hindex =>
    have htext : indices[i]?.bind Cell.text? = none := by
      rw [Option.bind_eq_none_iff]
      intro cell hcell
      exact Cell.text?_eq_none_iff.mpr fun text hscalar => hindex text (hscalar ▸ hcell)
    rw [htext, Option.bind_none]

/-- The positions whose index is one, in order. -/
def readablePositions (ringOf : String → Option (List (Point R))) (indices : List Cell) :
    List Nat :=
  (List.range indices.length).filter fun i => (ringAt? ringOf indices i).isSome

/-- The cell shows what the arrays hold at a position. -/
structure ShowsPosition (ringOf : String → Option (List (Point R))) (indices counts : List Cell)
    (i : Nat) (x : Hexagon R) : Prop where
  /-- The index is a scalar, and the ring is the one it stands for. -/
  index : ∃ text, indices[i]? = some (.scalar text) ∧ x.index = some text ∧
    ringOf text = some x.ring
  /-- The count is the integer at the same position; what is negative or no integer is zero. -/
  count : ∃ cell, counts[i]? = some cell ∧ (x.count : Int) = max 0 (cell.int?.getD 0)
  placeIds : x.placeIds = []

/-- The cell of a position, if the index there is one. -/
def hexagonAt? (ringOf : String → Option (List (Point R))) (indices counts : List Cell) (i : Nat) :
    Option (Hexagon R) :=
  (indices.zip counts)[i]?.bind fun (index, count) => hexagonOf? ringOf index count

theorem paired_eq_filterMap (hlength : indices.length = counts.length) :
    paired ringOf indices counts =
      (List.range indices.length).filterMap (hexagonAt? ringOf indices counts) := by
  rw [paired, filterMap_eq_filterMap_range, List.length_zip, ← hlength, Nat.min_self]
  rfl

theorem hexagonAt?_eq {i : Nat} (hi : i < indices.length)
    (hlength : indices.length = counts.length) :
    hexagonAt? ringOf indices counts i = hexagonOf? ringOf indices[i] counts[i] := by
  have hzip : (indices.zip counts)[i]? = some (indices[i], counts[i]) := by
    rw [List.getElem?_eq_getElem (by simp; omega), List.getElem_zip]
  rw [hexagonAt?, hzip, Option.bind_some]

theorem isSome_hexagonAt? {i : Nat} (hi : i < indices.length)
    (hlength : indices.length = counts.length) :
    (hexagonAt? ringOf indices counts i).isSome = (ringAt? ringOf indices i).isSome := by
  rw [hexagonAt?_eq hi hlength, ringAt?_eq, List.getElem?_eq_getElem hi, Option.bind_some, hexagonOf?]
  cases indices[i].text? with
  | none => rfl
  | some text => simp

theorem showsPosition_of_hexagonAt? {i : Nat} {x : Hexagon R} (hi : i < indices.length)
    (hlength : indices.length = counts.length) (h : hexagonAt? ringOf indices counts i = some x) :
    ShowsPosition ringOf indices counts i x := by
  simp only [hexagonAt?_eq hi hlength, hexagonOf?, Option.bind_eq_some_iff,
    Option.map_eq_some_iff] at h
  obtain ⟨text, htext, ring, hring, rfl⟩ := h
  refine ⟨⟨text, ?_, rfl, hring⟩, ⟨counts[i], List.getElem?_eq_getElem _, ?_⟩, rfl⟩
  · rw [List.getElem?_eq_getElem hi, Cell.text?_eq_some_iff.mp htext]
  · rw [Cell.count, Int.toNat_eq_max, Int.max_comm]

/-- One cell for each position whose index is one, in order, and each shows its own position. -/
theorem showsPosition_paired (hlength : indices.length = counts.length) :
    List.Forall₂ (ShowsPosition ringOf indices counts) (readablePositions ringOf indices)
      (paired ringOf indices counts) := by
  have hpositions : readablePositions ringOf indices =
      (List.range indices.length).filter fun i => (hexagonAt? ringOf indices counts i).isSome := by
    apply List.filter_congr
    intro i hi
    rw [isSome_hexagonAt? (List.mem_range.mp hi) hlength]
  have hinside : ∀ i ∈ readablePositions ringOf indices, i < indices.length := by
    intro i hi
    exact List.mem_range.mp (List.mem_of_mem_filter hi)
  have hvalues := forall₂_filterMap (hexagonAt? ringOf indices counts) (List.range indices.length)
  rw [← hpositions, ← paired_eq_filterMap hlength] at hvalues
  apply ((List.forall₂_and_left _ _).mpr ⟨hinside, hvalues⟩).imp
  intro i x h
  exact showsPosition_of_hexagonAt? h.1 hlength h.2

theorem paired_eq_nil_iff (hlength : indices.length = counts.length) :
    paired ringOf indices counts = [] ↔ ∀ i, ringAt? ringOf indices i = none := by
  have hnil : paired ringOf indices counts = [] ↔ readablePositions ringOf indices = [] := by
    rw [← List.length_eq_zero_iff, ← (showsPosition_paired hlength).length_eq,
      List.length_eq_zero_iff]
  rw [hnil, readablePositions, List.filter_eq_nil_iff]
  constructor
  · intro h i
    by_cases hi : i < indices.length
    · simpa using h i (List.mem_range.mpr hi)
    · simp [ringAt?, List.getElem?_eq_none (Nat.le_of_not_lt hi)]
  · intro h i _
    simp [h i]

theorem paired_ne_nil_iff (hlength : indices.length = counts.length) :
    paired ringOf indices counts ≠ [] ↔ ∃ i ring, ringAt? ringOf indices i = some ring := by
  rw [Ne, paired_eq_nil_iff hlength, not_forall]
  exact exists_congr fun i => Option.ne_none_iff_exists'

/-! ## The layer as a whole -/

/-- The table has indices and as many counts. -/
structure HasPairs (t : Table) (indices counts : List Cell) : Prop
    extends HasIndices t indices where
  hasCounts : HasCounts t counts
  length_eq : indices.length = counts.length

theorem ofArrays_of_uncounted (h : HasIndices t indices)
    (hcounts : ∀ counts, ¬ HasCounts t counts) :
    ofArrays ringOf t = .error (.missingColumn "counts") := by
  obtain ⟨cell, hcell, hresult⟩ := ofArrays_of_hasIndices ringOf h
  have hitems : cell.bind Cell.items? = none := by
    rw [Option.bind_eq_none_iff]
    rintro cell rfl
    refine Cell.items?_eq_none_iff.mpr fun counts hlist => hcounts counts ?_
    rwa [hlist] at hcell
  rw [hresult, hitems]

/-- With counts, it depends on how many there are. -/
theorem ofArrays_of_hasCounts (h : HasIndices t indices) (hcounts : HasCounts t counts) :
    ofArrays ringOf t =
      if indices.length = counts.length then .ok (ofHexagons? (paired ringOf indices counts))
      else .error (.mismatchedArrays indices.length counts.length) := by
  obtain ⟨cell, hcell, hresult⟩ := ofArrays_of_hasIndices ringOf h
  rw [hresult, hcell.unique hcounts]
  rfl

theorem ofArrays_of_uneven (h : HasIndices t indices) (hcounts : HasCounts t counts)
    (hlength : indices.length ≠ counts.length) :
    ofArrays ringOf t = .error (.mismatchedArrays indices.length counts.length) := by
  rw [ofArrays_of_hasCounts h hcounts, if_neg hlength]

theorem ofArrays_of_even (h : HasPairs t indices counts) :
    ofArrays ringOf t = .ok (ofHexagons? (paired ringOf indices counts)) := by
  rw [ofArrays_of_hasCounts h.toHasIndices h.hasCounts, if_pos h.length_eq]

/-- What a table may have, and what becomes of it. -/
inductive Yields (ringOf : String → Option (List (Point R))) (t : Table) :
    Except ResultFault (Option (Layer R)) → Prop where
  | lacking (h : LacksIndices t) : Yields ringOf t (.ok none)
  | uncounted (indices : List Cell) (h : HasIndices t indices)
      (hcounts : ∀ counts, ¬ HasCounts t counts) :
      Yields ringOf t (.error (.missingColumn "counts"))
  | uneven (indices counts : List Cell) (h : HasIndices t indices)
      (hcounts : HasCounts t counts) (hlength : indices.length ≠ counts.length) :
      Yields ringOf t (.error (.mismatchedArrays indices.length counts.length))
  | even (indices counts : List Cell) (h : HasPairs t indices counts) :
      Yields ringOf t (.ok (ofHexagons? (paired ringOf indices counts)))

theorem yields_ofArrays (ringOf : String → Option (List (Point R))) (t : Table) :
    Yields ringOf t (ofArrays ringOf t) := by
  obtain ⟨indices, h⟩ | h := hasIndices_or_lacksIndices t
  · by_cases hcounts : ∃ counts, HasCounts t counts
    · obtain ⟨counts, hcounts⟩ := hcounts
      by_cases hlength : indices.length = counts.length
      · have hpairs : HasPairs t indices counts := ⟨h, hcounts, hlength⟩
        exact ofArrays_of_even hpairs ▸ .even indices counts hpairs
      · exact ofArrays_of_uneven h hcounts hlength ▸ .uneven indices counts h hcounts hlength
    · have hnone := not_exists.mp hcounts
      exact ofArrays_of_uncounted h hnone ▸ .uncounted indices h hnone
  · exact ofArrays_of_lacksIndices h ▸ .lacking h

theorem mismatched_iff (m n : Nat) :
    ofArrays ringOf t = .error (.mismatchedArrays m n) ↔
      ∃ indices counts, HasIndices t indices ∧ HasCounts t counts ∧
        indices.length = m ∧ counts.length = n ∧ m ≠ n := by
  constructor
  · intro h
    cases h ▸ yields_ofArrays ringOf t with
    | uneven indices counts hindices hcounts hlength =>
      exact ⟨indices, counts, hindices, hcounts, rfl, rfl, hlength⟩
  · rintro ⟨indices, counts, hindices, hcounts, rfl, rfl, hlength⟩
    exact ofArrays_of_uneven hindices hcounts hlength

theorem missing_iff (name : String) :
    ofArrays ringOf t = .error (.missingColumn name) ↔
      name = "counts" ∧ (∃ indices, HasIndices t indices) ∧
        ∀ counts, ¬ HasCounts t counts := by
  constructor
  · intro h
    cases h ▸ yields_ofArrays ringOf t with
    | uncounted indices hindices hcounts => exact ⟨rfl, ⟨indices, hindices⟩, hcounts⟩
  · rintro ⟨rfl, ⟨indices, hindices⟩, hcounts⟩
    exact ofArrays_of_uncounted hindices hcounts

/-- What is no error comes from a table without indices, or from pairs. -/
theorem ofArrays_eq_ok_iff {drawn : Option (Layer R)} :
    ofArrays ringOf t = .ok drawn ↔
      (LacksIndices t ∧ drawn = none) ∨
        ∃ indices counts, HasPairs t indices counts ∧
          drawn = ofHexagons? (paired ringOf indices counts) := by
  constructor
  · intro h
    cases h ▸ yields_ofArrays ringOf t with
    | lacking hlacking => exact Or.inl ⟨hlacking, rfl⟩
    | even indices counts hpairs => exact Or.inr ⟨indices, counts, hpairs, rfl⟩
  · rintro (⟨hlacking, rfl⟩ | ⟨indices, counts, hpairs, rfl⟩)
    · exact ofArrays_of_lacksIndices hlacking
    · exact ofArrays_of_even hpairs

/-- How parallel arrays become a layer, or do not. -/
structure KeepsPositions (ringOf : String → Option (List (Point R))) (t : Table) : Prop where
  mismatched_iff : ∀ m n, ofArrays ringOf t = .error (.mismatchedArrays m n) ↔
    ∃ indices counts, HasIndices t indices ∧ HasCounts t counts ∧
      indices.length = m ∧ counts.length = n ∧ m ≠ n
  missing_iff : ∀ name, ofArrays ringOf t = .error (.missingColumn name) ↔
    name = "counts" ∧ (∃ indices, HasIndices t indices) ∧
      ∀ counts, ¬ HasCounts t counts
  none_iff : ofArrays ringOf t = .ok none ↔
    LacksIndices t ∨ ∃ indices counts, HasPairs t indices counts ∧
      ∀ i, ringAt? ringOf indices i = none
  /-- A layer in all other cases. -/
  some_iff : (∃ l, ofArrays ringOf t = .ok (some l)) ↔
    ∃ indices counts, HasPairs t indices counts ∧ ∃ i ring, ringAt? ringOf indices i = some ring
  /-- It has one cell for each position whose index is one, in order, with the count of that
      position. -/
  aligned : ∀ l indices counts, ofArrays ringOf t = .ok (some l) → HasPairs t indices counts →
    List.Forall₂ (ShowsPosition ringOf indices counts) (readablePositions ringOf indices)
      l.hexagons
  /-- No count is larger than the one against which cells are colored, and one is as large. -/
  maxCount : ∀ l, ofArrays ringOf t = .ok (some l) →
    (∀ x ∈ l.hexagons, x.count ≤ l.maxCount) ∧ ∃ x ∈ l.hexagons, x.count = l.maxCount

theorem keepsPositions (ringOf : String → Option (List (Point R))) (t : Table) :
    KeepsPositions ringOf t where
  mismatched_iff := mismatched_iff
  missing_iff := missing_iff
  none_iff := by
    rw [ofArrays_eq_ok_iff]
    apply or_congr
    · simp
    · refine exists_congr fun indices => exists_congr fun counts => and_congr_right fun hpairs => ?_
      rw [eq_comm, ofHexagons?_eq_none_iff, paired_eq_nil_iff hpairs.length_eq]
  some_iff := by
    constructor
    · rintro ⟨l, hl⟩
      obtain ⟨-, hnone⟩ | ⟨indices, counts, hpairs, hdrawn⟩ := ofArrays_eq_ok_iff.mp hl
      · cases hnone
      · have hne := exists_ofHexagons?_eq_some_iff.mp ⟨l, hdrawn.symm⟩
        exact ⟨indices, counts, hpairs, (paired_ne_nil_iff hpairs.length_eq).mp hne⟩
    · rintro ⟨indices, counts, hpairs, hring⟩
      obtain ⟨l, hl⟩ := exists_ofHexagons?_eq_some_iff.mpr
        ((paired_ne_nil_iff hpairs.length_eq).mpr hring)
      exact ⟨l, by rw [ofArrays_of_even hpairs, hl]⟩
  aligned l indices counts hl hpairs := by
    rw [ofArrays_of_even hpairs] at hl
    rw [ofHexagons?_eq_some (Except.ok.inj hl)]
    exact showsPosition_paired hpairs.length_eq
  maxCount l hl := by
    obtain ⟨-, hnone⟩ | ⟨indices, counts, -, hdrawn⟩ := ofArrays_eq_ok_iff.mp hl
    · cases hnone
    · exact ⟨fun x hx => count_le_maxCount hx,
        exists_count_eq_maxCount (hexagons_ne_nil hdrawn.symm)⟩

end Layer

end PlaceSearch
