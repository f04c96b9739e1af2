-- SUMMARY: Layers of cells: when there is one, and what its largest count is.
import PlaceSearch.Result.Density

/-!
# Layers

There is a layer as soon as there is a cell. Its largest count is the count of one of
its cells, and the layer of two lists of cells has the larger of their largest counts.
-/

namespace PlaceSearch.Layer

variable {R : Type}

/-- The cells that are drawn; without a layer there are none. -/
def cells : Option (Layer R) → List (Hexagon R)
  | none => []
  | some l => l.hexagons

/-- The largest count that is drawn; without a layer it is zero. -/
def largest : Option (Layer R) → Nat
  | none => 0
  | some l => l.maxCount

@[simp] theorem cells_ofHexagons? (hexagons : List (Hexagon R)) :
    cells (ofHexagons? hexagons) = hexagons := by
  cases hexagons with
  | nil => rfl
  | cons x rest => rfl

/-- A layer has the cells it was made of. -/
theorem ofHexagons?_eq_some {hexagons : List (Hexagon R)} {l : Layer R}
    (h : ofHexagons? hexagons = some l) : l.hexagons = hexagons := by
  unfold ofHexagons? at h
  split at h
  · cases h
  · cases h
    rfl

theorem ofHexagons?_eq_none_iff {hexagons : List (Hexagon R)} :
    ofHexagons? hexagons = none ↔ hexagons = [] := by
  cases hexagons with
  | nil => simp [ofHexagons?]
  | cons x rest => simp [ofHexagons?]

theorem exists_ofHexagons?_eq_some_iff {hexagons : List (Hexagon R)} :
    (∃ l, ofHexagons? hexagons = some l) ↔ hexagons ≠ [] := by
  rw [Ne, ← ofHexagons?_eq_none_iff, ← Option.isSome_iff_exists, Option.isSome_iff_ne_none]

theorem hexagons_ne_nil {hexagons : List (Hexagon R)} {l : Layer R}
    (h : ofHexagons? hexagons = some l) : l.hexagons ≠ [] := by
  rw [ofHexagons?_eq_some h]
  exact exists_ofHexagons?_eq_some_iff.mp ⟨l, h⟩

/-! ## Largest counts -/

theorem foldl_max_count (start : Nat) (hexagons : List (Hexagon R)) :
    hexagons.foldl (fun m h => max m h.count) start = max start (maxCount ⟨hexagons⟩) := by
  induction hexagons generalizing start with
  | nil => simp [maxCount]
  | cons x rest ih =>
    simp only [maxCount, List.foldl_cons] at ih ⊢
    rw [ih (max start x.count), ih (max 0 x.count)]
    omega

theorem maxCount_cons (x : Hexagon R) (rest : List (Hexagon R)) :
    maxCount ⟨x :: rest⟩ = max x.count (maxCount ⟨rest⟩) := by
  rw [maxCount, List.foldl_cons, foldl_max_count, Nat.zero_max]

theorem maxCount_append (hexagons hexagons' : List (Hexagon R)) :
    maxCount ⟨hexagons ++ hexagons'⟩ = max (maxCount ⟨hexagons⟩) (maxCount ⟨hexagons'⟩) := by
  rw [maxCount, List.foldl_append, foldl_max_count]
  rfl

@[simp] theorem largest_ofHexagons? (hexagons : List (Hexagon R)) :
    largest (ofHexagons? hexagons) = maxCount ⟨hexagons⟩ := by
  cases hexagons with
  | nil => rfl
  | cons x rest => rfl

theorem count_le_maxCount {l : Layer R} {x : Hexagon R} (hx : x ∈ l.hexagons) :
    x.count ≤ l.maxCount := by
  obtain ⟨hexagons⟩ := l
  induction hexagons with
  | nil => cases hx
  | cons y rest ih =>
    rw [maxCount_cons]
    obtain rfl | hx := List.mem_cons.mp hx
    · exact Nat.le_max_left _ _
    · exact Nat.le_trans (ih hx) (Nat.le_max_right _ _)

/-- Some cell has the largest count. -/
theorem exists_count_eq_maxCount {l : Layer R} (hne : l.hexagons ≠ []) :
    ∃ x ∈ l.hexagons, x.count = l.maxCount := by
  obtain ⟨hexagons⟩ := l
  induction hexagons with
  | nil => exact absurd rfl hne
  | cons x rest ih =>
    rw [maxCount_cons]
    by_cases hfirst : maxCount ⟨rest⟩ ≤ x.count
    · exact ⟨x, List.mem_cons_self, (Nat.max_eq_left hfirst).symm⟩
    · have hrest : rest ≠ [] := by
        rintro rfl
        exact hfirst (Nat.zero_le _)
      obtain ⟨y, hy, hcount⟩ := ih hrest
      refine ⟨y, List.mem_cons_of_mem x hy, ?_⟩
      rw [hcount, Nat.max_eq_right (Nat.le_of_not_le hfirst)]

end PlaceSearch.Layer
