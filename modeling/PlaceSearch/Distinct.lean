-- SUMMARY: Lists without repetition that keep the order of first appearance.

/-!
# Distinct entries
-/

namespace PlaceSearch.Distinct

variable {α : Type} [DecidableEq α]

/-- Add an entry at the end unless it is there. -/
def add (xs : List α) (x : α) : List α := if x ∈ xs then xs else xs ++ [x]

/-- Each entry once, at its first position. -/
def ofList (xs : List α) : List α := xs.foldl add []

theorem mem_add {xs : List α} {x y : α} : y ∈ add xs x ↔ y ∈ xs ∨ y = x := by
  unfold add
  split
  · constructor
    · exact Or.inl
    · rintro (h | rfl) <;> assumption
  · simp

theorem nodup_add {xs : List α} (x : α) (h : xs.Nodup) : (add xs x).Nodup := by
  unfold add
  split
  · exact h
  · next hx =>
    rw [List.nodup_append]
    refine ⟨h, by simp, ?_⟩
    intro a ha b hb
    rw [List.mem_singleton] at hb
    rintro rfl
    exact hx (hb ▸ ha)

end PlaceSearch.Distinct
