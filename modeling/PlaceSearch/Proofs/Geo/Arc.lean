-- SUMMARY: Remainders by a full turn, arcs of longitudes, and when one arc lies in another.
import Mathlib.Algebra.Order.Floor.Ring
import Mathlib.Data.Rat.Floor
import Mathlib.Order.Interval.Set.Defs
import Mathlib.Tactic.Linarith
import Mathlib.Tactic.Ring

/-!
# Arcs

Longitudes that differ by full turns name one meridian. An arc is given by the
meridian it starts at and its width going east; of two arcs, the first lies in
the second exactly if it ends there, counted from the start of the second. The
second must leave a gap for that, since on a full circle every count fits.
-/

namespace PlaceSearch.Arc

/-- The remainder of a number of degrees by a full turn, from 0 up to 360. -/
def wrap (x : ℚ) : ℚ := x - 360 * ⌊x / 360⌋

theorem wrap_nonneg (x : ℚ) : 0 ≤ wrap x := by
  have hfloor := Int.floor_le (x / 360)
  unfold wrap
  linarith

theorem wrap_lt (x : ℚ) : wrap x < 360 := by
  have hfloor := Int.lt_floor_add_one (x / 360)
  unfold wrap
  linarith

/-- The remainder is the only number below a full turn that differs by full turns. -/
theorem wrap_eq_of_sub_eq {x r : ℚ} {k : ℤ} (hnonneg : 0 ≤ r) (hlt : r < 360)
    (h : x - r = 360 * k) : wrap x = r := by
  have hfloor : ⌊x / 360⌋ = k := by
    rw [Int.floor_eq_iff]
    constructor <;> linarith
  rw [wrap, hfloor]
  linarith

theorem wrap_eq_self {x : ℚ} (hnonneg : 0 ≤ x) (hlt : x < 360) : wrap x = x :=
  wrap_eq_of_sub_eq (k := 0) hnonneg hlt (by simp)

@[simp] theorem wrap_zero : wrap 0 = 0 := wrap_eq_self le_rfl (by norm_num)

theorem wrap_le_self {x : ℚ} (h : 0 ≤ x) : wrap x ≤ x := by
  have hfloor : 0 ≤ ⌊x / 360⌋ := Int.floor_nonneg.mpr (by linarith)
  have hcast : (0 : ℚ) ≤ ⌊x / 360⌋ := by exact_mod_cast hfloor
  unfold wrap
  linarith

/-- Numbers that differ by full turns have one remainder. -/
theorem wrap_congr {x y : ℚ} {k : ℤ} (h : x - y = 360 * k) : wrap x = wrap y := by
  apply wrap_eq_of_sub_eq (k := k + ⌊y / 360⌋) (wrap_nonneg y) (wrap_lt y)
  rw [wrap]
  push_cast
  linarith

theorem wrap_wrap_add_wrap (x y : ℚ) : wrap (wrap x + wrap y) = wrap (x + y) := by
  apply wrap_congr (k := -⌊x / 360⌋ - ⌊y / 360⌋)
  rw [wrap, wrap]
  push_cast
  ring

theorem wrap_add_le (x y : ℚ) : wrap (x + y) ≤ wrap x + wrap y := by
  rw [← wrap_wrap_add_wrap]
  exact wrap_le_self (add_nonneg (wrap_nonneg x) (wrap_nonneg y))

/-- Taking a smaller remainder from a larger one loses no turn. -/
theorem wrap_sub {x y : ℚ} (h : wrap y ≤ wrap x) : wrap (x - y) = wrap x - wrap y := by
  have hlt := wrap_lt x
  have hnonneg := wrap_nonneg y
  apply wrap_eq_of_sub_eq (k := ⌊x / 360⌋ - ⌊y / 360⌋)
  · linarith
  · linarith
  · rw [wrap, wrap]
    push_cast
    ring

/-- The way back is the rest of the turn. -/
theorem wrap_neg {x : ℚ} (h : 0 < wrap x) : wrap (-x) = 360 - wrap x := by
  have hlt := wrap_lt x
  apply wrap_eq_of_sub_eq (k := -⌊x / 360⌋ - 1)
  · linarith
  · linarith
  · rw [wrap]
    push_cast
    ring

/-- Going on from a meridian to one that lies further east of a common start. -/
theorem wrap_sub_of_le {a b s : ℚ} (h : wrap (a - s) ≤ wrap (b - s)) :
    wrap (b - a) = wrap (b - s) - wrap (a - s) := by
  rw [← wrap_sub h, sub_sub_sub_cancel_right]

/-- Coming back from a meridian to one that lies less far from a common end. -/
theorem wrap_sub_of_ge {a b z : ℚ} (h : wrap (z - b) ≤ wrap (z - a)) :
    wrap (b - a) = wrap (z - a) - wrap (z - b) := by
  rw [← wrap_sub h, sub_sub_sub_cancel_left]

/-- Going on to the one that lies further from a common end. -/
theorem wrap_sub_of_gt {a b z : ℚ} (h : wrap (z - b) < wrap (z - a)) :
    wrap (a - b) = 360 - (wrap (z - a) - wrap (z - b)) := by
  have hback := wrap_sub_of_ge h.le
  have hpos : 0 < wrap (b - a) := by
    rw [hback]
    linarith
  rw [← neg_sub b a, wrap_neg hpos, hback]

/-- Below 180 degrees a meridian has one name. -/
theorem eq_of_wrap_sub_eq {x y z : ℚ} (hx : x ∈ Set.Ico (-180 : ℚ) 180)
    (hy : y ∈ Set.Ico (-180 : ℚ) 180) (h : wrap (z - x) = wrap (z - y)) : x = y := by
  obtain ⟨hlowx, hhighx⟩ := hx
  obtain ⟨hlowy, hhighy⟩ := hy
  have hxy : wrap (x + 180) = wrap (y + 180) := by
    apply wrap_congr (k := ⌊(z - y) / 360⌋ - ⌊(z - x) / 360⌋)
    rw [wrap, wrap] at h
    push_cast
    linarith
  rw [wrap_eq_self (by linarith) (by linarith), wrap_eq_self (by linarith) (by linarith)] at hxy
  linarith

end PlaceSearch.Arc

namespace PlaceSearch

open Arc (wrap wrap_nonneg wrap_lt)

/-- The longitudes within `width` degrees going east from `start`, full turns aside. -/
def arc (start width : ℚ) : Set ℚ := {x | wrap (x - start) ≤ width}

theorem mem_arc {start width x : ℚ} : x ∈ arc start width ↔ wrap (x - start) ≤ width := Iff.rfl

/-- Every longitude has a name from -180 to 180. -/
theorem exists_mem_Icc_arc (x : ℚ) :
    ∃ y ∈ Set.Icc (-180 : ℚ) 180, ∀ start width, y ∈ arc start width ↔ x ∈ arc start width := by
  refine ⟨wrap (x + 180) - 180, ⟨?_, ?_⟩, fun start width => ?_⟩
  · have := wrap_nonneg (x + 180)
    linarith
  · have := wrap_lt (x + 180)
    linarith
  · have hsame : wrap (wrap (x + 180) - 180 - start) = wrap (x - start) := by
      apply Arc.wrap_congr (k := -⌊(x + 180) / 360⌋)
      rw [wrap]
      push_cast
      ring
    rw [mem_arc, mem_arc, hsame]

/-- An arc lies in another if it ends there, counted from the start of the other. -/
theorem arc_subset_arc {a w s S : ℚ} (h : wrap (a - s) + w ≤ S) : arc a w ⊆ arc s S := by
  intro x hx
  have hsum : wrap (x - s) ≤ wrap (x - a) + wrap (a - s) := by
    have hle := Arc.wrap_add_le (x - a) (a - s)
    rwa [sub_add_sub_cancel] at hle
  have hwidth := mem_arc.mp hx
  exact mem_arc.mpr (by linarith)

/-- An arc that lies in another with a gap ends there, counted from the start of
    the other; it is enough to know so of longitudes from -180 to 180. -/
theorem add_le_of_arc_subset {a w s S : ℚ} (hw : 0 ≤ w) (hS : S < 360)
    (h : ∀ x ∈ Set.Icc (-180 : ℚ) 180, x ∈ arc a w → x ∈ arc s S) : wrap (a - s) + w ≤ S := by
  have hall : ∀ x, x ∈ arc a w → x ∈ arc s S := by
    intro x hx
    obtain ⟨y, hy, hsame⟩ := exists_mem_Icc_arc x
    exact (hsame s S).mp (h y hy ((hsame a w).mpr hx))
  have hstart : wrap (a - s) ≤ S := hall a (mem_arc.mpr (by simpa using hw))
  -- Otherwise a point of the first arc lies in the gap of the second: as far east of the
  -- start `a` as the arc goes, but not further than the middle of the gap.
  by_contra hbeyond
  rw [not_le] at hbeyond
  have hstartNonneg := wrap_nonneg (a - s)
  let t := min w ((S + 360) / 2 - wrap (a - s))
  have htw : t ≤ w := min_le_left _ _
  have htgap : t ≤ (S + 360) / 2 - wrap (a - s) := min_le_right _ _
  have ht : 0 ≤ t := le_min hw (by linarith)
  have hbeyondS : S < wrap (a - s) + t := by
    rcases min_choice w ((S + 360) / 2 - wrap (a - s)) with hmin | hmin
    · rw [show t = w from hmin]
      exact hbeyond
    · rw [show t = (S + 360) / 2 - wrap (a - s) from hmin]
      linarith
  have hmem : a + t ∈ arc a w := by
    rw [mem_arc, add_sub_cancel_left]
    exact (Arc.wrap_le_self ht).trans htw
  have hwrap : wrap (a + t - s) = wrap (a - s) + t := by
    apply Arc.wrap_eq_of_sub_eq (k := ⌊(a - s) / 360⌋)
    · linarith
    · linarith
    · rw [wrap]
      ring
  have hin := mem_arc.mp (hall _ hmem)
  rw [hwrap] at hin
  linarith

/-- Two arcs that end within `S` of a common start are covered from the start of one
    of them within `S`. -/
theorem min_reach_le {a b s S w v : ℚ} (ha : wrap (a - s) + w ≤ S) (hb : wrap (b - s) + v ≤ S) :
    min (max w (wrap (b - a) + v)) (max v (wrap (a - b) + w)) ≤ S := by
  have haNonneg := wrap_nonneg (a - s)
  have hbNonneg := wrap_nonneg (b - s)
  rcases le_total (wrap (a - s)) (wrap (b - s)) with hle | hle
  · apply (min_le_left _ _).trans
    rw [Arc.wrap_sub_of_le hle]
    apply max_le <;> linarith
  · apply (min_le_right _ _).trans
    rw [Arc.wrap_sub_of_le hle]
    apply max_le <;> linarith

end PlaceSearch
