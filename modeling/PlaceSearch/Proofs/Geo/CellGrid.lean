-- SUMMARY: Rings around cells can be drawn as soon as the boundaries have corners enough.
import PlaceSearch.Geo.CellGrid

/-!
# Rings around cells

Of the grid nothing is known but that a cell has at least five corners. Its ring repeats
the first of them at the end, so it can be drawn wherever the corners lie.
-/

namespace PlaceSearch

/-- A ring that can be drawn as a polygon: at least four positions, the last of
    which is the first. -/
structure IsDrawable {α : Type} (ring : List α) : Prop where
  four_le : 4 ≤ ring.length
  closed : ring.getLast? = ring.head?

namespace CellGrid

variable {R : Type} {g : CellGrid R}

/-- What is asked of a grid: the boundary of every cell has at least five corners. -/
def HasCorners (g : CellGrid R) : Prop := ∀ i, 5 ≤ (g.boundary i).length

theorem isDrawable_ring (hg : g.HasCorners) (i : g.Index) : IsDrawable (g.ring i) := by
  have hfive := hg i
  obtain ⟨first, rest, hboundary⟩ :=
    List.exists_cons_of_ne_nil (List.ne_nil_of_length_pos (Nat.lt_of_lt_of_le (by decide) hfive))
  have hring : g.ring i = first :: (rest ++ [first]) := by
    rw [ring, hboundary]
    rfl
  rw [hboundary, List.length_cons] at hfive
  constructor
  · rw [hring, List.length_cons, List.length_append, List.length_singleton]
    omega
  · rw [hring, ← List.cons_append, List.getLast?_concat, List.cons_append, List.head?_cons]

/-- So can every ring that a text names. -/
theorem isDrawable_of_ringOf (hg : g.HasCorners) {text : String} {ring : List (Point R)}
    (h : g.ringOf text = some ring) : IsDrawable ring := by
  obtain ⟨i, -, rfl⟩ := Option.map_eq_some_iff.mp h
  exact isDrawable_ring hg i

end CellGrid

end PlaceSearch
