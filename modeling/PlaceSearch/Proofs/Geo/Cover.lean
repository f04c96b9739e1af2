-- SUMMARY: The box around points: it covers them, no box that covers them is narrower, and their order does not matter.
import Mathlib.Data.Finset.Max
import Mathlib.Data.List.Pairwise
import Mathlib.Order.Bounds.Basic
import PlaceSearch.Proofs.Geo.UnionAll

/-!
# The smallest box around points

The longitudes of points cut the circle into gaps, and the box around the points
leaves out the widest one. The scan of the sorted longitudes starts with the gap
across 180 degrees, where the ends trade places, and takes any wider one it meets.
Whatever covers the points has a last point before its own gap, going east; the next
point lies beyond that gap, so the gap is no wider than the one that was left out.
-/

namespace PlaceSearch.Box

open Arc (wrap wrap_nonneg)
open Coordinate (fullTurn)

variable {lngs : List ExactDegrees} {g best : Gap ExactDegrees} {points : List (Point ExactDegrees)}

/-! ## Longitudes in order -/

/-- From west to east, the same longitude more than once at will. -/
def Ascending (lngs : List ExactDegrees) : Prop := lngs.Pairwise fun x y => x.value ≤ y.value

/-- The longitudes of points, in order. -/
def sortedLngs (points : List (Point ExactDegrees)) : List ExactDegrees :=
  (points.map Point.lng).mergeSort Coordinate.sortsBefore

theorem sortsBefore_iff {x y : ExactDegrees} :
    Coordinate.sortsBefore x y = true ↔ x.value ≤ y.value := decide_eq_true_iff

theorem ascending_sortedLngs (points : List (Point ExactDegrees)) :
    Ascending (sortedLngs points) := by
  have hsorted : (sortedLngs points).Pairwise fun x y => Coordinate.sortsBefore x y = true := by
    apply List.pairwise_mergeSort
    · intro x y z hxy hyz
      rw [sortsBefore_iff] at hxy hyz ⊢
      exact hxy.trans hyz
    · intro x y
      rw [Bool.or_eq_true, sortsBefore_iff, sortsBefore_iff]
      exact le_total x.value y.value
  exact hsorted.imp sortsBefore_iff.mp

theorem sortedLngs_perm (points : List (Point ExactDegrees)) :
    (sortedLngs points).Perm (points.map Point.lng) := List.mergeSort_perm _ _

theorem mem_sortedLngs {x : ExactDegrees} : x ∈ sortedLngs points ↔ ∃ p ∈ points, p.lng = x := by
  rw [(sortedLngs_perm points).mem_iff, List.mem_map]

/-- Exact longitudes have one order. -/
theorem sortedLngs_eq_of_ascending (hsorted : Ascending lngs)
    (hperm : lngs.Perm (points.map Point.lng)) : sortedLngs points = lngs :=
  ((sortedLngs_perm points).trans hperm.symm).eq_of_pairwise
    (fun _ _ _ _ hxy hyx => ExactDegrees.ext (le_antisymm hxy hyx))
    (ascending_sortedLngs points) hsorted

theorem sortedLngs_eq_of_perm {points' : List (Point ExactDegrees)} (h : points'.Perm points) :
    sortedLngs points' = sortedLngs points :=
  sortedLngs_eq_of_ascending (ascending_sortedLngs points)
    ((sortedLngs_perm points).trans (h.map _).symm)

/-! ## Gaps -/

/-- A gap east of some longitudes of a list and west of the others. -/
structure IsInside (lngs : List ExactDegrees) (g : Gap ExactDegrees) : Prop where
  westEnd_mem : g.westEnd ∈ lngs
  eastEnd_mem : g.eastEnd ∈ lngs
  westEnd_lt : g.westEnd.value < g.eastEnd.value
  width : g.width.value = g.eastEnd.value - g.westEnd.value
  free : ∀ x ∈ lngs, x.value ≤ g.westEnd.value ∨ g.eastEnd.value ≤ x.value

/-- The gap across 180 degrees, from the easternmost longitude to the westernmost. -/
structure IsAround (lngs : List ExactDegrees) (g : Gap ExactDegrees) : Prop where
  westEnd_mem : g.westEnd ∈ lngs
  eastEnd_mem : g.eastEnd ∈ lngs
  width : g.width.value = g.eastEnd.value + 360 - g.westEnd.value
  free : ∀ x ∈ lngs, g.eastEnd.value ≤ x.value ∧ x.value ≤ g.westEnd.value

/-- Going east from any longitude, the next one follows within `gap` degrees; the westernmost
    follows behind the easternmost. -/
structure GapsAtMost (lngs : List ExactDegrees) (gap : ℚ) : Prop where
  next : ∀ x ∈ lngs, ∀ z ∈ lngs, x.value < z.value →
    ∃ y ∈ lngs, x.value < y.value ∧ y.value - x.value ≤ gap
  around : ∀ x ∈ lngs, (∀ z ∈ lngs, z.value ≤ x.value) →
    ∃ y ∈ lngs, y.value + 360 - x.value ≤ gap

theorem IsInside.cons {a : ExactDegrees} (h : IsInside lngs g)
    (ha : ∀ x ∈ lngs, a.value ≤ x.value) : IsInside (a :: lngs) g where
  westEnd_mem := List.mem_cons_of_mem a h.westEnd_mem
  eastEnd_mem := List.mem_cons_of_mem a h.eastEnd_mem
  westEnd_lt := h.westEnd_lt
  width := h.width
  free := List.forall_mem_cons.mpr ⟨Or.inl (ha _ h.westEnd_mem), h.free⟩

/-- The box from the eastern end of a gap around to the western one is the rest of the turn. -/
theorem value_width_of_gap (h : IsInside lngs g ∨ IsAround lngs g) (south north : ExactDegrees) :
    (Box.mk south g.eastEnd north g.westEnd).width.value = 360 - g.width.value := by
  rw [value_width]
  obtain h | h := h
  · rw [if_pos h.westEnd_lt, h.width]
    ring
  · rw [if_neg (not_lt.mpr (h.free _ h.westEnd_mem).1), h.width]
    ring

/-- No longitude lies in the gap. -/
theorem mem_arc_of_gap (h : IsInside lngs g ∨ IsAround lngs g)
    (hlng : ∀ x ∈ lngs, x.value ∈ Set.Icc (-180 : ℚ) 180) {x : ExactDegrees} (hx : x ∈ lngs) :
    x.value ∈ arc g.eastEnd.value (360 - g.width.value) := by
  obtain ⟨hlow, hhigh⟩ := hlng x hx
  rw [mem_arc]
  obtain h | h := h
  · obtain ⟨-, heast⟩ := hlng _ h.eastEnd_mem
    obtain ⟨hwest, -⟩ := hlng _ h.westEnd_mem
    have hwidth := h.width
    obtain hbefore | hbehind := h.free x hx
    · -- Counted from the eastern end, what lies west of the gap comes a turn later.
      have hturn : wrap (x.value - g.eastEnd.value) = wrap (x.value - g.eastEnd.value + 360) :=
        Arc.wrap_congr (k := -1) (by push_cast; ring)
      have hle := Arc.wrap_le_self (x := x.value - g.eastEnd.value + 360) (by linarith)
      linarith
    · have hle := Arc.wrap_le_self (x := x.value - g.eastEnd.value) (by linarith)
      linarith
  · have hwidth := h.width
    obtain ⟨hbehind, hbefore⟩ := h.free x hx
    have hle := Arc.wrap_le_self (x := x.value - g.eastEnd.value) (by linarith)
    linarith

/-- In an arc, the way to a longitude from one met before it is no longer than the arc. -/
theorem wrap_sub_le_of_mem_arc {start span x y : ℚ} (hx : x ∈ arc start span)
    (hle : wrap (y - start) ≤ wrap (x - start)) : wrap (x - y) ≤ span := by
  have hnonneg := wrap_nonneg (y - start)
  have hend := mem_arc.mp hx
  rw [Arc.wrap_sub_of_le hle]
  linarith

/-- Where the last longitude is not the easternmost, a gap follows it before the next one. -/
theorem GapsAtMost.le_of_last {gap start span : ℚ} {x z : ExactDegrees} (h : GapsAtMost lngs gap)
    (hlng : ∀ x ∈ lngs, x.value ∈ Set.Icc (-180 : ℚ) 180)
    (hcover : ∀ x ∈ lngs, x.value ∈ arc start span) (hx : x ∈ lngs)
    (hlast : ∀ y ∈ lngs, wrap (y.value - start) ≤ wrap (x.value - start))
    (hz : z ∈ lngs) (hxz : x.value < z.value) : 360 - gap ≤ span := by
  obtain ⟨y, hy, hxy, hgap⟩ := h.next x hx z hz hxz
  obtain ⟨hlow, -⟩ := hlng x hx
  obtain ⟨-, hhigh⟩ := hlng y hy
  have hwrap : wrap (x.value - y.value) = x.value - y.value + 360 :=
    Arc.wrap_eq_of_sub_eq (k := -1) (by linarith) (by linarith) (by push_cast; ring)
  have hback := wrap_sub_le_of_mem_arc (hcover x hx) (hlast y hy)
  linarith

/-- What covers the longitudes ends in front of a gap: it leaves out no more than the widest one. -/
theorem GapsAtMost.le_of_cover {gap start span : ℚ} (h : GapsAtMost lngs gap) (hne : lngs ≠ [])
    (hlng : ∀ x ∈ lngs, x.value ∈ Set.Icc (-180 : ℚ) 180)
    (hcover : ∀ x ∈ lngs, x.value ∈ arc start span) : 360 - gap ≤ span := by
  have hnonempty : lngs.toFinset.Nonempty := List.toFinset_nonempty_iff lngs |>.mpr hne
  obtain ⟨x, hx, hlast⟩ : ∃ x ∈ lngs, ∀ y ∈ lngs,
      wrap (y.value - start) ≤ wrap (x.value - start) := by
    simpa using lngs.toFinset.exists_max_image (fun x => wrap (x.value - start)) hnonempty
  by_cases hfurther : ∃ z ∈ lngs, x.value < z.value
  · obtain ⟨z, hz, hxz⟩ := hfurther
    exact h.le_of_last hlng hcover hx hlast hz hxz
  · obtain ⟨y, hy, hgap⟩ := h.around x hx (by simpa using hfurther)
    obtain ⟨-, hhigh⟩ := hlng x hx
    obtain ⟨hlow, -⟩ := hlng y hy
    have hyx : y.value ≤ x.value := by
      by_contra hlt
      exact hfurther ⟨y, hy, not_le.mp hlt⟩
    obtain hlt | heq := (by linarith : x.value - y.value ≤ 360).lt_or_eq
    · have hback := wrap_sub_le_of_mem_arc (hcover x hx) (hlast y hy)
      rw [Arc.wrap_eq_self (by linarith) hlt] at hback
      linarith
    · -- Both are the meridian at 180 degrees, once as -180, and then `y` is the last as well.
      have hsame : wrap (y.value - start) = wrap (x.value - start) :=
        Arc.wrap_congr (k := -1) (by push_cast; linarith)
      exact h.le_of_last hlng hcover hy (fun v hv => hsame ▸ hlast v hv) hx (by linarith)

/-! ## The scan -/

theorem best_le_widestGap (best : Gap ExactDegrees) (lngs : List ExactDegrees) :
    best.width.value ≤ (widestGap best lngs).width.value := by
  fun_induction widestGap best lngs with
  | case1 best x y rest gap ih =>
    refine le_trans ?_ ih
    split
    · next hlt => exact (ExactDegrees.lt_iff.mp hlt).le
    · exact le_rfl
  | case2 => exact le_rfl

/-- The scan meets the gap in front of every longitude but the first. -/
theorem exists_next_of_widestGap (best : Gap ExactDegrees) (hsorted : Ascending lngs)
    {x z : ExactDegrees} (hx : x ∈ lngs) (hz : z ∈ lngs) (hxz : x.value < z.value) :
    ∃ y ∈ lngs, x.value < y.value ∧ y.value - x.value ≤ (widestGap best lngs).width.value := by
  fun_induction widestGap best lngs with
  | case1 best a b rest gap ih =>
    obtain ⟨ha, hrest⟩ := List.pairwise_cons.mp hsorted
    have hgap : b.value - a.value ≤ (widestGap (if Coordinate.lt best.width gap.width then gap
        else best) (b :: rest)).width.value := by
      refine le_trans ?_ (best_le_widestGap _ _)
      split
      · exact le_rfl
      · next hnot => exact not_lt.mp (mt ExactDegrees.lt_iff.mpr hnot)
    have hz' : z ∈ b :: rest := by
      obtain rfl | hz := List.mem_cons.mp hz
      · obtain rfl | hx := List.mem_cons.mp hx
        · exact absurd hxz (lt_irrefl _)
        · exact absurd hxz (not_lt.mpr (ha x hx))
      · exact hz
    by_cases hstep : x = a ∧ a.value < b.value
    · obtain ⟨rfl, hlt⟩ := hstep
      exact ⟨b, by simp, hlt, hgap⟩
    · have hx' : x ∈ b :: rest := by
        obtain rfl | hx := List.mem_cons.mp hx
        · have heq : x = b := ExactDegrees.ext (by grind)
          exact heq ▸ List.mem_cons_self
        · exact hx
      obtain ⟨y, hy, hxy, hle⟩ := ih hrest hx' hz'
      exact ⟨y, List.mem_cons_of_mem _ hy, hxy, hle⟩
  | case2 lngs best hshort =>
    match lngs with
    | [] => cases hx
    | [a] =>
      obtain rfl := List.mem_singleton.mp hx
      obtain rfl := List.mem_singleton.mp hz
      exact absurd hxz (lt_irrefl _)
    | a :: b :: rest => exact absurd rfl (hshort a b rest)

theorem isInside_of_neighbors {a b : ExactDegrees} {rest : List ExactDegrees}
    (hsorted : Ascending (a :: b :: rest)) (hlt : a.value < b.value) :
    IsInside (a :: b :: rest) ⟨b - a, b, a⟩ where
  westEnd_mem := List.mem_cons_self
  eastEnd_mem := List.mem_cons_of_mem a List.mem_cons_self
  westEnd_lt := hlt
  width := rfl
  free := by
    have hb := (List.pairwise_cons.mp (List.pairwise_cons.mp hsorted).2).1
    exact List.forall_mem_cons.mpr ⟨Or.inl le_rfl,
      List.forall_mem_cons.mpr ⟨Or.inr le_rfl, fun x hx => Or.inr (hb x hx)⟩⟩

/-- The scan ends with the gap it was given, or with a wider one between two neighbors. -/
theorem widestGap_cases (best : Gap ExactDegrees) (hsorted : Ascending lngs)
    (hbest : 0 ≤ best.width.value) :
    widestGap best lngs = best ∨ IsInside lngs (widestGap best lngs) := by
  fun_induction widestGap best lngs with
  | case1 best a b rest gap ih =>
    obtain ⟨ha, hrest⟩ := List.pairwise_cons.mp hsorted
    by_cases hlt : Coordinate.lt best.width gap.width = true
    · have hwider : best.width.value < b.value - a.value := ExactDegrees.lt_iff.mp hlt
      rw [if_pos hlt] at ih ⊢
      obtain hsame | hinside := ih hrest (hbest.trans hwider.le)
      · rw [hsame]
        exact Or.inr (isInside_of_neighbors hsorted (by linarith))
      · exact Or.inr (hinside.cons ha)
    · rw [if_neg hlt] at ih ⊢
      exact (ih hrest hbest).imp id fun hinside => hinside.cons ha
  | case2 => exact Or.inl rfl

/-! ## The gap that is left out -/

/-- The gap that the box around longitudes leaves out. -/
def openGap (low : ExactDegrees) (more : List ExactDegrees) : Gap ExactDegrees :=
  let high := (low :: more).getLast (List.cons_ne_nil low more)
  widestGap ⟨low + fullTurn - high, low, high⟩ (low :: more)

section

variable {low : ExactDegrees} {more : List ExactDegrees}

theorem Ascending.le_getLast (hsorted : Ascending (low :: more)) {x : ExactDegrees}
    (hx : x ∈ low :: more) : x.value ≤ ((low :: more).getLast (List.cons_ne_nil low more)).value :=
  hsorted.rel_getLast_of_rel_getLast_getLast hx (le_refl (ExactDegrees.value _))

theorem isAround_ends (hsorted : Ascending (low :: more)) :
    let high := (low :: more).getLast (List.cons_ne_nil low more)
    IsAround (low :: more) ⟨low + fullTurn - high, low, high⟩ where
  westEnd_mem := List.getLast_mem _
  eastEnd_mem := List.mem_cons_self
  width := rfl
  free x hx := by
    refine ⟨?_, hsorted.le_getLast hx⟩
    obtain rfl | hx := List.mem_cons.mp hx
    · exact le_rfl
    · exact (List.pairwise_cons.mp hsorted).1 x hx

theorem isInside_or_isAround_openGap (hsorted : Ascending (low :: more))
    (hlng : ∀ x ∈ low :: more, x.value ∈ Set.Icc (-180 : ℚ) 180) :
    IsInside (low :: more) (openGap low more) ∨ IsAround (low :: more) (openGap low more) := by
  obtain ⟨hlow, -⟩ := hlng low List.mem_cons_self
  obtain ⟨-, hhigh⟩ := hlng _ (List.getLast_mem (List.cons_ne_nil low more))
  have haround := isAround_ends hsorted
  have hnonneg : 0 ≤ low.value + 360 -
      ((low :: more).getLast (List.cons_ne_nil low more)).value := by linarith
  obtain hends | hinside := widestGap_cases
    ⟨low + fullTurn - (low :: more).getLast (List.cons_ne_nil low more), low, _⟩ hsorted hnonneg
  · exact Or.inr (by rw [openGap, hends]; exact haround)
  · exact Or.inl hinside

theorem gapsAtMost_openGap (hsorted : Ascending (low :: more)) :
    GapsAtMost (low :: more) (openGap low more).width.value where
  next x hx z hz hxz := exists_next_of_widestGap _ hsorted hx hz hxz
  around x _ hmost := by
    have hhigh := hmost _ (List.getLast_mem (List.cons_ne_nil low more))
    have hbest : low.value + 360 - ((low :: more).getLast (List.cons_ne_nil low more)).value ≤
        (openGap low more).width.value := best_le_widestGap _ _
    exact ⟨low, List.mem_cons_self, by linarith⟩

end

/-- The box around points ends where the widest gap of their longitudes begins. -/
theorem covering_lngs (first : Point ExactDegrees) (rest : List (Point ExactDegrees)) :
    ∃ low more, sortedLngs (first :: rest) = low :: more ∧
      (covering first rest).west = (openGap low more).eastEnd ∧
      (covering first rest).east = (openGap low more).westEnd := by
  cases hsorted : sortedLngs (first :: rest) with
  | nil =>
    have hmem : first.lng ∈ sortedLngs (first :: rest) :=
      mem_sortedLngs.mpr ⟨first, List.mem_cons_self, rfl⟩
    rw [hsorted] at hmem
    cases hmem
  | cons low more =>
    have hlngs : ((first :: rest).map Point.lng).mergeSort Coordinate.sortsBefore = low :: more :=
      hsorted
    have hhigh := List.getLast?_eq_some_getLast (List.cons_ne_nil low more)
    refine ⟨low, more, rfl, ?_, ?_⟩ <;>
      simp only [covering, openGap, hlngs, hhigh, List.head?_cons, Option.getD_some]

/-! ## Latitudes -/

/-- The latitudes of points. -/
def lats (points : List (Point ExactDegrees)) : Set ℚ :=
  (fun p => p.lat.value) '' {p | p ∈ points}

theorem lats_concat (points : List (Point ExactDegrees)) (p : Point ExactDegrees) :
    lats (points ++ [p]) = lats points ∪ {p.lat.value} := by
  ext y
  simp only [lats, Set.mem_image, Set.mem_ofPred_eq, List.mem_append, List.mem_singleton,
    or_and_right, exists_or, exists_eq_left, Set.mem_union, Set.mem_singleton_iff]
  rw [eq_comm (a := y)]

theorem lats_perm {points' : List (Point ExactDegrees)} (h : points'.Perm points) :
    lats points' = lats points := by
  simp only [lats, h.mem_iff]

theorem isLeast_foldl_min (start : ExactDegrees) (points : List (Point ExactDegrees)) :
    IsLeast (insert start.value (lats points))
      (points.foldl (fun low p => Coordinate.min low p.lat) start).value := by
  induction points using List.reverseRecOn with
  | nil => simp [lats]
  | append_singleton points p ih =>
    rw [lats_concat, ← Set.insert_union, List.foldl_concat]
    exact ih.union isLeast_singleton

theorem isGreatest_foldl_max (start : ExactDegrees) (points : List (Point ExactDegrees)) :
    IsGreatest (insert start.value (lats points))
      (points.foldl (fun high p => Coordinate.max high p.lat) start).value := by
  induction points using List.reverseRecOn with
  | nil => simp [lats]
  | append_singleton points p ih =>
    rw [lats_concat, ← Set.insert_union, List.foldl_concat]
    exact ih.union isGreatest_singleton

theorem isLeast_south_covering (first : Point ExactDegrees) (rest : List (Point ExactDegrees)) :
    IsLeast (lats (first :: rest)) (covering first rest).south.value := by
  have hfirst : first.lat.value ∈ lats (first :: rest) := ⟨first, List.mem_cons_self, rfl⟩
  have hleast := isLeast_foldl_min first.lat (first :: rest)
  rwa [Set.insert_eq_of_mem hfirst] at hleast

theorem isGreatest_north_covering (first : Point ExactDegrees) (rest : List (Point ExactDegrees)) :
    IsGreatest (lats (first :: rest)) (covering first rest).north.value := by
  have hfirst : first.lat.value ∈ lats (first :: rest) := ⟨first, List.mem_cons_self, rfl⟩
  have hgreatest := isGreatest_foldl_max first.lat (first :: rest)
  rwa [Set.insert_eq_of_mem hfirst] at hgreatest

/-! ## The box around points -/

/-- The box covers the points, with their least and greatest latitudes, and no box that covers
    them is narrower. -/
structure IsLeastAround (points : List (Point ExactDegrees)) (b : Box ExactDegrees) : Prop where
  wellPlaced : b.WellPlaced
  covers : ∀ p ∈ points, b.contains p = true
  south : IsLeast (lats points) b.south.value
  north : IsGreatest (lats points) b.north.value
  /-- Whatever the longitudes of the other box are. -/
  least : ∀ c : Box ExactDegrees, (∀ p ∈ points, c.contains p = true) →
    b.width.value ≤ c.width.value

theorem isLeastAround_covering (first : Point ExactDegrees) (rest : List (Point ExactDegrees))
    (hlng : ∀ p ∈ first :: rest, p.lng.value ∈ Set.Icc (-180 : ℚ) 180) :
    IsLeastAround (first :: rest) (covering first rest) := by
  obtain ⟨low, more, hlngs, hwest, heast⟩ := covering_lngs first rest
  have hmem : ∀ {x}, x ∈ low :: more ↔ ∃ p ∈ first :: rest, p.lng = x := by
    intro x
    rw [← hlngs, mem_sortedLngs]
  have hsorted : Ascending (low :: more) := hlngs ▸ ascending_sortedLngs (first :: rest)
  have hrange : ∀ x ∈ low :: more, x.value ∈ Set.Icc (-180 : ℚ) 180 := by
    intro x hx
    obtain ⟨p, hp, rfl⟩ := hmem.mp hx
    exact hlng p hp
  have hgap := isInside_or_isAround_openGap hsorted hrange
  have hends : (openGap low more).westEnd ∈ low :: more ∧ (openGap low more).eastEnd ∈ low :: more :=
    hgap.elim (fun h => ⟨h.westEnd_mem, h.eastEnd_mem⟩) fun h => ⟨h.westEnd_mem, h.eastEnd_mem⟩
  have hwidth : (covering first rest).width.value = 360 - (openGap low more).width.value := by
    rw [← value_width_of_gap hgap (covering first rest).south (covering first rest).north,
      ← hwest, ← heast]
  have hsouth := isLeast_south_covering first rest
  have hnorth := isGreatest_north_covering first rest
  refine ⟨⟨?_, ?_, ?_⟩, ?_, hsouth, hnorth, ?_⟩
  · rw [hwest]
    exact hrange _ hends.2
  · rw [heast]
    exact hrange _ hends.1
  · exact hsouth.2 hnorth.1
  · intro p hp
    have hlat : p.lat.value ∈ lats (first :: rest) := ⟨p, hp, rfl⟩
    rw [contains_iff, hwest, hwidth]
    exact ⟨hsouth.2 hlat, hnorth.2 hlat, mem_arc_of_gap hgap hrange (hmem.mpr ⟨p, hp, rfl⟩)⟩
  · intro c hc
    rw [hwidth]
    apply (gapsAtMost_openGap hsorted).le_of_cover (List.cons_ne_nil low more) hrange
    intro x hx
    obtain ⟨p, hp, rfl⟩ := hmem.mp hx
    exact (contains_iff.mp (hc p hp)).2.2

theorem covering_eq_of_perm {first first' : Point ExactDegrees}
    {rest rest' : List (Point ExactDegrees)} (h : (first' :: rest').Perm (first :: rest))
    (hlng : ∀ p ∈ first :: rest, p.lng.value ∈ Set.Icc (-180 : ℚ) 180) :
    covering first' rest' = covering first rest := by
  have hleast := isLeastAround_covering first rest hlng
  have hleast' := isLeastAround_covering first' rest' fun p hp => hlng p (h.mem_iff.mp hp)
  obtain ⟨low, more, hlngs, hwest, heast⟩ := covering_lngs first rest
  obtain ⟨low', more', hlngs', hwest', heast'⟩ := covering_lngs first' rest'
  obtain ⟨rfl, rfl⟩ : low' = low ∧ more' = more :=
    List.cons.inj (hlngs'.symm.trans ((sortedLngs_eq_of_perm h).trans hlngs))
  apply Box.ext
  · exact ExactDegrees.ext ((lats_perm h ▸ hleast'.south).unique hleast.south)
  · rw [hwest, hwest']
  · exact ExactDegrees.ext ((lats_perm h ▸ hleast'.north).unique hleast.north)
  · rw [heast, heast']

/-- Points with longitudes from -180 to 180, at least one of them, have a smallest box around
    them, and it is the same for all orders of the points. -/
theorem ofPoints_isLeastAround (hne : points ≠ [])
    (hlng : ∀ p ∈ points, p.lng.value ∈ Set.Icc (-180 : ℚ) 180) :
    ∃ b, ofPoints? points = some b ∧ IsLeastAround points b ∧
      ∀ points', points'.Perm points → ofPoints? points' = some b := by
  cases points with
  | nil => exact absurd rfl hne
  | cons first rest =>
    refine ⟨covering first rest, rfl, isLeastAround_covering first rest hlng, ?_⟩
    intro points' hperm
    cases points' with
    | nil => cases hperm.length_eq
    | cons first' rest' => exact congrArg some (covering_eq_of_perm hperm hlng)

/-- Points on the meridian at 180 degrees under both of its names, one of them twice, and one
    point a third of a turn to the west: the box reaches across the meridian. -/
theorem ofPoints_isLeastAround_meridian :
    let points : List (Point ExactDegrees) :=
      [⟨⟨-17⟩, ⟨180⟩⟩, ⟨⟨-16⟩, ⟨-180⟩⟩, ⟨⟨-18⟩, ⟨60⟩⟩, ⟨⟨-16⟩, ⟨-180⟩⟩]
    points ≠ [] ∧ (∀ p ∈ points, p.lng.value ∈ Set.Icc (-180 : ℚ) 180) ∧
      ofPoints? points = some ⟨⟨-18⟩, ⟨60⟩, ⟨-16⟩, ⟨-180⟩⟩ ∧
      ∃ b, ofPoints? points = some b ∧ IsLeastAround points b ∧
        ∀ points', points'.Perm points → ofPoints? points' = some b := by
  intro points
  have hne : points ≠ [] := List.cons_ne_nil _ _
  have hlng : ∀ p ∈ points, p.lng.value ∈ Set.Icc (-180 : ℚ) 180 := by
    simp only [points, List.forall_mem_cons, Set.mem_Icc]
    norm_num
  have hlngs : sortedLngs points = [⟨-180⟩, ⟨-180⟩, ⟨60⟩, ⟨180⟩] := by
    apply sortedLngs_eq_of_ascending
    · simp only [Ascending]
      decide +kernel
    · decide +kernel
  have hbox : ofPoints? points = some ⟨⟨-18⟩, ⟨60⟩, ⟨-16⟩, ⟨-180⟩⟩ := by
    unfold sortedLngs at hlngs
    simp only [points, ofPoints?, covering] at hlngs ⊢
    rw [hlngs]
    decide +kernel
  exact ⟨hne, hlng, hbox, ofPoints_isLeastAround hne hlng⟩

end PlaceSearch.Box
