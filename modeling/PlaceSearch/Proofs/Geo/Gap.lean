-- SUMMARY: Two boxes seen from a longitude outside them: where they start and end, and when their union leaves it open.
import Mathlib.Algebra.Order.Group.MinMax
import PlaceSearch.Proofs.Geo.Union

/-!
# Gaps between two boxes

Two boxes leave two gaps on the circle of longitudes, and their union leaves open
the wider one. Seen from a longitude in one of the gaps, boxes lie on a line, and
that gap is the wider one as long as the middles of the boxes are less than half a
turn apart. At half a turn the gaps are equally wide, and the order of the boxes
decides between them.
-/

namespace PlaceSearch.Box

open Arc (wrap wrap_nonneg wrap_lt)

variable {a b u : Box ExactDegrees} {z : ℚ}

/-! ## Boxes seen from a longitude -/

/-- The longitudes of a box. -/
def lngs (b : Box ExactDegrees) : Set ℚ := arc b.west.value b.width.value

/-- Degrees going east from the start of a box to a longitude. -/
def fromWest (z : ℚ) (b : Box ExactDegrees) : ℚ := wrap (z - b.west.value)

/-- Degrees going east from the end of a box to a longitude. -/
def fromEast (z : ℚ) (b : Box ExactDegrees) : ℚ := fromWest z b - b.width.value

/-- Degrees going east from the middle of a box to a longitude. -/
def fromMiddle (z : ℚ) (b : Box ExactDegrees) : ℚ := (fromWest z b + fromEast z b) / 2

theorem fromWest_lt (z : ℚ) (b : Box ExactDegrees) : fromWest z b < 360 := wrap_lt _

theorem not_mem_lngs : z ∉ b.lngs ↔ 0 < fromEast z b := by
  rw [lngs, mem_arc, not_le, fromEast, fromWest, sub_pos]

theorem WellPlaced.fromEast_le (h : b.WellPlaced) (z : ℚ) : fromEast z b ≤ fromWest z b :=
  sub_le_self _ h.width_nonneg

theorem WellPlaced.fromEast_lt (h : b.WellPlaced) (z : ℚ) : fromEast z b < 360 :=
  (h.fromEast_le z).trans_lt (fromWest_lt z b)

theorem fromWest_sub_fromEast (z : ℚ) (b : Box ExactDegrees) :
    fromWest z b - fromEast z b = b.width.value := sub_sub_cancel _ _

/-- Degrees going east from the start of one box to the end of another. -/
def extent (a b : Box ExactDegrees) : ℚ := wrap (b.west.value - a.west.value) + b.width.value

/-- On the way to the longitude, the end of a box comes as far behind the start of another as
    they are apart when seen from there. -/
theorem extent_of_le (h : fromWest z b ≤ fromWest z a) :
    extent a b = fromWest z a - fromEast z b := by
  rw [extent, Arc.wrap_sub_of_ge h, fromEast, fromWest, fromWest]
  ring

/-- From the nearer start the way leads past the longitude, and takes the rest of the turn. -/
theorem extent_of_lt (h : fromWest z b < fromWest z a) :
    extent b a = 360 + fromWest z b - fromEast z a := by
  rw [extent, Arc.wrap_sub_of_gt h, fromEast, fromWest, fromWest]
  ring

theorem value_reach_eq (a b : Box ExactDegrees) :
    (reach a b).value = max a.width.value (extent a b) := value_reach a b

/-- From the box that starts further away, both are covered at the end of the nearer one. -/
theorem value_reach_of_le (h : fromWest z b ≤ fromWest z a) :
    (reach a b).value = fromWest z a - min (fromEast z a) (fromEast z b) := by
  rw [value_reach_eq, extent_of_le h, ← max_sub_sub_left, fromWest_sub_fromEast]

/-- From the nearer one, both are covered at the end of the other one, a turn later. -/
theorem value_reach_of_lt (ha : a.WellPlaced) (hzb : z ∉ b.lngs)
    (h : fromWest z b < fromWest z a) :
    (reach b a).value = 360 + fromWest z b - fromEast z a := by
  have hb := not_mem_lngs.mp hzb
  have hlt := ha.fromEast_lt z
  rw [value_reach_eq, extent_of_lt h, ← fromWest_sub_fromEast z b]
  apply max_eq_right
  linarith

/-! ## Two boxes -/

theorem lngs_subset_union (ha : a.WellPlaced) (hb : b.WellPlaced) :
    a.lngs ⊆ (a.union b).lngs ∧ b.lngs ⊆ (a.union b).lngs := arc_subset_union ha hb

theorem arc_eq_univ {start width : ℚ} (h : 360 ≤ width) : arc start width = Set.univ :=
  Set.eq_univ_of_forall fun _ => mem_arc.mpr ((wrap_lt _).le.trans h)

/-- A start and a span are the longitudes of the box made of them, which covers all of them
    from a full turn on. -/
theorem lngs_of_span {span : ExactDegrees} (h : 0 ≤ span.value) (start south north : ExactDegrees) :
    (if Coordinate.le Coordinate.fullTurn span = true then
        (⟨south, Coordinate.ofInt (-180), north, Coordinate.halfTurn⟩ : Box ExactDegrees)
      else ⟨south, start, north, normalizeLng (start + span)⟩).lngs =
      arc start.value span.value := by
  simp only [ExactDegrees.le_iff, ExactDegrees.value_fullTurn]
  split
  · next hfull =>
    rw [arc_eq_univ hfull, lngs, value_width]
    exact arc_eq_univ (by norm_num)
  · next hgap => rw [lngs, width_normalizeLng h (not_le.mp hgap)]

/-- The union goes east from the first box unless less is needed from the second. -/
theorem lngs_union_of_le (ha : a.WellPlaced) (h : (reach a b).value ≤ (reach b a).value) :
    (a.union b).lngs = arc a.west.value (reach a b).value := by
  have hle : Coordinate.le (reach a b) (reach b a) = true := ExactDegrees.le_iff.mpr h
  simp only [union, hle, if_true]
  exact lngs_of_span (ha.reach_nonneg b) _ _ _

theorem lngs_union_of_lt (hb : b.WellPlaced) (h : (reach b a).value < (reach a b).value) :
    (a.union b).lngs = arc b.west.value (reach b a).value := by
  have hgt : ¬ Coordinate.le (reach a b) (reach b a) = true :=
    fun hle => not_le.mpr h (ExactDegrees.le_iff.mp hle)
  simp only [union, hgt]
  exact lngs_of_span (hb.reach_nonneg a) _ _ _

/-- Of the two ways round, only the one from the box further away leaves a longitude open. -/
theorem not_mem_arc_reach (hb : b.WellPlaced) (hza : z ∉ a.lngs) (hzb : z ∉ b.lngs) :
    z ∉ arc a.west.value (reach a b).value ↔ fromWest z b ≤ fromWest z a := by
  have ha := not_mem_lngs.mp hza
  have hb' := not_mem_lngs.mp hzb
  rw [mem_arc, not_le, ← fromWest]
  constructor
  · intro h
    by_contra hbeyond
    rw [value_reach_of_lt hb hza (not_le.mp hbeyond)] at h
    linarith [hb.fromEast_lt z]
  · intro h
    rw [value_reach_of_le h]
    exact sub_lt_self _ (lt_min ha hb')

/-- Two boxes leave a longitude open if their middles, seen from there, are less than half
    a turn apart. At half a turn the first box decides. -/
theorem not_mem_lngs_union_iff (ha : a.WellPlaced) (hb : b.WellPlaced) (hza : z ∉ a.lngs)
    (hzb : z ∉ b.lngs) :
    z ∉ (a.union b).lngs ↔
      fromMiddle z a - fromMiddle z b ≤ 180 ∧ fromMiddle z b - fromMiddle z a < 180 := by
  have hea := not_mem_lngs.mp hza
  have heb := not_mem_lngs.mp hzb
  have hwa := ha.fromEast_le z
  have hwb := hb.fromEast_le z
  have hlta := fromWest_lt z a
  have hltb := fromWest_lt z b
  have hchoice : z ∉ (a.union b).lngs ↔
      ((reach a b).value ≤ (reach b a).value ∧ fromWest z b ≤ fromWest z a) ∨
      ((reach b a).value < (reach a b).value ∧ fromWest z a ≤ fromWest z b) := by
    obtain hle | hlt := le_or_gt (reach a b).value (reach b a).value
    · rw [lngs_union_of_le ha hle, not_mem_arc_reach hb hza hzb]
      simp [hle, not_lt.mpr hle]
    · rw [lngs_union_of_lt hb hlt, not_mem_arc_reach ha hzb hza]
      simp [hlt, not_le.mpr hlt]
  rw [hchoice, fromMiddle, fromMiddle]
  obtain hlt | heq | hgt := lt_trichotomy (fromWest z a) (fromWest z b)
  · rw [value_reach_of_le hlt.le, value_reach_of_lt hb hza hlt]
    grind
  · rw [value_reach_of_le heq.le, value_reach_of_le heq.ge, min_comm]
    grind
  · rw [value_reach_of_le hgt.le, value_reach_of_lt ha hzb hgt]
    grind

/-- A longitude that is left open sees the union start with the box further away. -/
theorem fromWest_eq_of_reach (hb : b.WellPlaced) (hza : z ∉ a.lngs) (hzb : z ∉ b.lngs)
    (hz : z ∉ u.lngs) (hwest : u.west = a.west) (hwidth : u.width.value = (reach a b).value) :
    fromWest z u = max (fromWest z a) (fromWest z b) ∧
      fromEast z u = min (fromEast z a) (fromEast z b) := by
  have hle : fromWest z b ≤ fromWest z a := by
    rw [← not_mem_arc_reach hb hza hzb, ← hwest, ← hwidth]
    exact hz
  have hsame : fromWest z u = fromWest z a := by rw [fromWest, hwest, fromWest]
  constructor
  · rw [hsame, max_eq_left hle]
  · rw [fromEast, hsame, hwidth, value_reach_of_le hle, sub_sub_cancel]

theorem fromWest_union (ha : a.WellPlaced) (hb : b.WellPlaced) (hz : z ∉ (a.union b).lngs) :
    fromWest z (a.union b) = max (fromWest z a) (fromWest z b) ∧
      fromEast z (a.union b) = min (fromEast z a) (fromEast z b) := by
  obtain ⟨hsuba, hsubb⟩ := lngs_subset_union ha hb
  have hza : z ∉ a.lngs := fun hmem => hz (hsuba hmem)
  have hzb : z ∉ b.lngs := fun hmem => hz (hsubb hmem)
  have hwidth := width_union ha hb
  obtain ⟨hfull, -⟩ | ⟨start, span, hstart, hspan, hlt, hunion⟩ := union_cases a b
  · rw [min_eq_left hfull] at hwidth
    rw [lngs, arc_eq_univ hwidth.ge] at hz
    exact absurd (Set.mem_univ z) hz
  · rw [← hspan, min_eq_right hlt.le] at hwidth
    have hwest : (a.union b).west = start := by rw [hunion]
    obtain ⟨rfl, rfl⟩ | ⟨rfl, rfl⟩ := hstart
    · exact fromWest_eq_of_reach hb hza hzb hz hwest hwidth
    · rw [max_comm, min_comm]
      exact fromWest_eq_of_reach ha hzb hza hz hwest hwidth

end PlaceSearch.Box
