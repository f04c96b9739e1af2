-- SUMMARY: The boundary of a cell has a position for each of its five or six corners.
import PlaceSearch.Hex.Boundary
import PlaceSearch.Proofs.Geo.CellGrid

/-!
# Boundaries of cells

A cell has five or six corners, and a side that crosses an edge of the
icosahedron adds one to its boundary and takes none away. So the grid on which
the program runs has the corners that rings need.
-/

namespace PlaceSearch

namespace Hex

theorem length_hexagonCorners (turned : Bool) : (hexagonCorners turned).length = 6 := by
  cases turned <;> rfl

theorem five_le_length_corners (i : Index) : 5 ≤ (corners i).length := by
  simp only [corners, List.length_map]
  split
  · rw [List.length_take, length_hexagonCorners]
    decide
  · rw [length_hexagonCorners]
    decide

/-- Every corner is a position of its own, behind the extra ones before it. -/
theorem length_le_length_flatMap {α β : Type} (extra : α → List β) (corner : α → β) (xs : List α) :
    xs.length ≤ (xs.flatMap fun x => extra x ++ [corner x]).length := by
  induction xs with
  | nil => exact Nat.le_refl 0
  | cons x xs ih =>
    rw [List.flatMap_cons, List.length_append, List.length_append, List.length_singleton,
      List.length_cons]
    omega

/-- Going around the corners meets each of them. -/
theorem length_le_length_around {α β : Type} (extra : Option α × α → List β)
    (corner : Option α × α → β) (closing : List β) (corners : List α) :
    corners.length ≤
      (((withPrevious corners).1.flatMap fun x => extra x ++ [corner x]) ++ closing).length := by
  have hmet := length_le_length_flatMap extra corner (withPrevious corners).1
  have hpairs : (withPrevious corners).1.length = corners.length := by simp [withPrevious]
  rw [List.length_append]
  omega

theorem hasCorners_grid : grid.HasCorners := by
  intro i
  have hcorners := five_le_length_corners i
  change 5 ≤ (boundary i).length
  unfold boundary
  dsimp only
  split
  · refine Nat.le_trans ?_ (length_le_length_around _ _ _ _)
    rwa [List.length_map]
  · refine Nat.le_trans ?_ (length_le_length_around _ _ _ _)
    rwa [List.length_map]

end Hex

end PlaceSearch
