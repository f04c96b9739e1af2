-- SUMMARY: Keeping each entry once: which entries stay, and that none stays twice.
import Mathlib.Data.List.Induction
import Mathlib.Data.List.Perm.Basic
import PlaceSearch.Distinct

namespace PlaceSearch.Distinct

variable {α : Type} [DecidableEq α]

theorem mem_foldl_add {xs start : List α} {y : α} :
    y ∈ xs.foldl add start ↔ y ∈ start ∨ y ∈ xs := by
  induction xs generalizing start with
  | nil => simp
  | cons x xs ih =>
    rw [List.foldl_cons, ih, mem_add, List.mem_cons, or_assoc]

theorem nodup_foldl_add {xs start : List α} (h : start.Nodup) : (xs.foldl add start).Nodup := by
  induction xs generalizing start with
  | nil => exact h
  | cons x xs ih => exact ih (nodup_add x h)

@[simp] theorem mem_ofList {xs : List α} {y : α} : y ∈ ofList xs ↔ y ∈ xs := by
  simp [ofList, mem_foldl_add]

theorem nodup_ofList (xs : List α) : (ofList xs).Nodup := nodup_foldl_add List.nodup_nil

theorem ofList_concat (xs : List α) (x : α) : ofList (xs ++ [x]) = add (ofList xs) x := by
  rw [ofList, List.foldl_append]
  rfl

theorem add_ne_nil (xs : List α) (x : α) : add xs x ≠ [] :=
  List.ne_nil_of_mem (mem_add.mpr (Or.inr rfl))

theorem add_of_mem {xs : List α} {x : α} (h : x ∈ xs) : add xs x = xs := if_pos h

theorem foldl_add_of_subset {xs ys : List α} (h : ∀ y ∈ ys, y ∈ xs) : ys.foldl add xs = xs := by
  induction ys with
  | nil => rfl
  | cons y ys ih =>
    obtain ⟨hy, hys⟩ := List.forall_mem_cons.mp h
    rw [List.foldl_cons, add_of_mem hy, ih hys]

theorem foldl_add_of_nodup {xs start : List α} (h : (start ++ xs).Nodup) :
    xs.foldl add start = start ++ xs := by
  induction xs generalizing start with
  | nil => rw [List.append_nil, List.foldl_nil]
  | cons x xs ih =>
    have hx : x ∉ start := fun hmem =>
      (List.nodup_append.mp h).2.2 x hmem x List.mem_cons_self rfl
    rw [List.append_cons] at h ⊢
    rw [List.foldl_cons, add, if_neg hx, ih h]

/-- Entries without repetition stay as they are, and what repeats them does not count. -/
theorem ofList_append_of_subset {xs ys : List α} (hnodup : xs.Nodup) (h : ∀ y ∈ ys, y ∈ xs) :
    ofList (xs ++ ys) = xs := by
  have hfirst : xs.foldl add [] = xs := foldl_add_of_nodup hnodup
  rw [ofList, List.foldl_append, hfirst, foldl_add_of_subset h]

omit [DecidableEq α] in
/-- Some entries without repetition come first in some order of the list. -/
theorem exists_perm_append {xs first : List α} (hnodup : first.Nodup)
    (hsubset : ∀ x ∈ first, x ∈ xs) : ∃ more, (first ++ more).Perm xs := by
  obtain ⟨first', hsame, hsublist⟩ := List.subperm_of_subset hnodup hsubset
  obtain ⟨more, hmore⟩ := hsublist.exists_perm_append
  exact ⟨more, (hmore.trans (hsame.append_right more)).symm⟩

/-- The entries that stay are in the order of their first positions. -/
theorem pairwise_idxOf_ofList (xs : List α) :
    (ofList xs).Pairwise fun x y => xs.idxOf x < xs.idxOf y := by
  induction xs using List.reverseRecOn with
  | nil => exact List.Pairwise.nil
  | append_singleton xs x ih =>
    -- A new entry at the end moves none of the others.
    have hkept : (ofList xs).Pairwise fun y z => (xs ++ [x]).idxOf y < (xs ++ [x]).idxOf z := by
      apply ih.imp_of_mem
      intro y z hy hz hlt
      rwa [List.idxOf_append_of_mem (mem_ofList.mp hy), List.idxOf_append_of_mem (mem_ofList.mp hz)]
    rw [ofList_concat, add]
    split
    · exact hkept
    · next hx =>
      refine List.pairwise_append.mpr ⟨hkept, List.pairwise_singleton _ _, fun y hy z hz => ?_⟩
      obtain rfl := List.mem_singleton.mp hz
      have hy' := mem_ofList.mp hy
      rw [List.idxOf_append_of_mem hy', List.idxOf_append_of_notMem (mt mem_ofList.mpr hx)]
      exact Nat.lt_add_right _ (List.idxOf_lt_length_of_mem hy')

/-- Entries that are added alike are one, or both are there already. -/
theorem add_eq_add_iff {xs : List α} {x y : α} :
    add xs x = add xs y ↔ x = y ∨ x ∈ xs ∧ y ∈ xs := by
  constructor
  · intro h
    have hx : x ∈ xs ∨ x = y := mem_add.mp (h ▸ mem_add.mpr (Or.inr rfl))
    have hy : y ∈ xs ∨ y = x := mem_add.mp (h ▸ mem_add.mpr (Or.inr rfl))
    obtain hx | rfl := hx
    · exact hy.elim (fun hy => Or.inr ⟨hx, hy⟩) fun hyx => Or.inl hyx.symm
    · exact Or.inl rfl
  · rintro (rfl | ⟨hx, hy⟩)
    · rfl
    · rw [add_of_mem hx, add_of_mem hy]

end PlaceSearch.Distinct
