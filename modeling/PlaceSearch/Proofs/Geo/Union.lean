-- SUMMARY: The union of two boxes is the narrowest box that covers both, over exact coordinates.
import PlaceSearch.Proofs.Geo.Exact

/-!
# Unions of boxes

The union starts where one of the boxes starts and reaches as far as needed to
cover both, whichever start needs less. Any box that covers both has a start of
its own; from there one of the two comes first, and its start needs no more than
the width of that box. If both starts need a full turn, nothing less covers both.
-/

namespace PlaceSearch.Box

open Arc (wrap wrap_nonneg)
open Coordinate (ofInt halfTurn)

variable {a b c : Box ExactDegrees}

/-! ## Boxes with a given start and span -/

theorem value_normalizeLng (x : ExactDegrees) :
    (normalizeLng x).value = if 180 < x.value then x.value - 360 else x.value := by
  unfold normalizeLng
  simp only [ExactDegrees.lt_iff, ExactDegrees.value_halfTurn]
  split <;> simp

theorem normalizeLng_mem {start span : ExactDegrees} (hstart : start.value ∈ Set.Icc (-180 : ℚ) 180)
    (hnonneg : 0 ≤ span.value) (hlt : span.value < 360) :
    (normalizeLng (start + span)).value ∈ Set.Icc (-180 : ℚ) 180 := by
  obtain ⟨hlow, hhigh⟩ := hstart
  rw [value_normalizeLng, ExactDegrees.value_add]
  split
  · constructor <;> linarith
  · constructor <;> linarith

/-- A span below a full turn is the width of the box that ends there. -/
theorem width_normalizeLng {start span : ExactDegrees} (hnonneg : 0 ≤ span.value)
    (hlt : span.value < 360) (south north : ExactDegrees) :
    (Box.mk south start north (normalizeLng (start + span))).width.value = span.value := by
  rw [value_width, value_normalizeLng, ExactDegrees.value_add]
  split
  · rw [if_pos (by linarith)]
    ring
  · rw [if_neg (by linarith)]
    ring

/-! ## Reach -/

theorem value_reach (a b : Box ExactDegrees) :
    (reach a b).value =
      max a.width.value (wrap (b.west.value - a.west.value) + b.width.value) := rfl

theorem arc_subset_reach_left (a b : Box ExactDegrees) :
    arc a.west.value a.width.value ⊆ arc a.west.value (reach a b).value := by
  apply arc_subset_arc
  rw [sub_self, Arc.wrap_zero, zero_add, value_reach]
  exact le_max_left _ _

theorem arc_subset_reach_right (a b : Box ExactDegrees) :
    arc b.west.value b.width.value ⊆ arc a.west.value (reach a b).value := by
  apply arc_subset_arc
  rw [value_reach]
  exact le_max_right _ _

theorem WellPlaced.reach_nonneg (h : a.WellPlaced) (b : Box ExactDegrees) :
    0 ≤ (reach a b).value :=
  h.width_nonneg.trans (le_max_left _ _)

/-- The union covers all longitudes if both starts need a full turn, and else ends as
    far from the better start as is needed from there. -/
theorem union_cases (a b : Box ExactDegrees) :
    (360 ≤ min (reach a b).value (reach b a).value ∧
      a.union b = ⟨Coordinate.min a.south b.south, ofInt (-180), Coordinate.max a.north b.north,
        halfTurn⟩) ∨
    ∃ start span, ((start = a.west ∧ span = reach a b) ∨ (start = b.west ∧ span = reach b a)) ∧
      span.value = min (reach a b).value (reach b a).value ∧ span.value < 360 ∧
      a.union b = ⟨Coordinate.min a.south b.south, start, Coordinate.max a.north b.north,
        normalizeLng (start + span)⟩ := by
  unfold union
  simp only [ExactDegrees.le_iff, ExactDegrees.value_fullTurn]
  by_cases hle : (reach a b).value ≤ (reach b a).value
  · simp only [hle, if_true, min_eq_left hle]
    by_cases hfull : 360 ≤ (reach a b).value
    · exact Or.inl ⟨hfull, if_pos hfull⟩
    · exact Or.inr ⟨a.west, reach a b, Or.inl ⟨rfl, rfl⟩, rfl, not_le.mp hfull, if_neg hfull⟩
  · simp only [hle, if_false, min_eq_right (le_of_not_ge hle)]
    by_cases hfull : 360 ≤ (reach b a).value
    · exact Or.inl ⟨hfull, if_pos hfull⟩
    · exact Or.inr ⟨b.west, reach b a, Or.inr ⟨rfl, rfl⟩, rfl, not_le.mp hfull, if_neg hfull⟩

/-! ## The least cover -/

/-- The box covers both others with latitudes as close as can be, and no box that
    covers both has a narrower range of longitudes. -/
structure IsLeastCover (a b u : Box ExactDegrees) : Prop where
  wellPlaced : u.WellPlaced
  covers : ∀ p, a.contains p = true ∨ b.contains p = true → u.contains p = true
  south : u.south.value = min a.south.value b.south.value
  north : u.north.value = max a.north.value b.north.value
  /-- It is enough for the other box to cover the points with longitudes from -180 to 180. -/
  least : ∀ c : Box ExactDegrees, c.WellPlaced →
    (∀ p : Point ExactDegrees, p.lng.value ∈ Set.Icc (-180 : ℚ) 180 →
      a.contains p = true ∨ b.contains p = true → c.contains p = true) →
    u.width.value ≤ c.width.value

/-- A box that covers another one with a gap left ends behind it. -/
theorem WellPlaced.add_width_le (ha : a.WellPlaced)
    (hcover : ∀ p : Point ExactDegrees, p.lng.value ∈ Set.Icc (-180 : ℚ) 180 →
      a.contains p = true → c.contains p = true) (hgap : c.width.value < 360) :
    wrap (a.west.value - c.west.value) + a.width.value ≤ c.width.value := by
  apply add_le_of_arc_subset ha.width_nonneg hgap
  intro x hx hmem
  have hcontains : a.contains ⟨a.south, ⟨x⟩⟩ = true :=
    contains_iff.mpr ⟨le_rfl, ha.south_le_north, hmem⟩
  exact (contains_iff.mp (hcover _ hx hcontains)).2.2

/-- From one of two starts, no more than the width of a common cover is needed. -/
theorem WellPlaced.min_reach_le (ha : a.WellPlaced) (hb : b.WellPlaced)
    (hcover : ∀ p : Point ExactDegrees, p.lng.value ∈ Set.Icc (-180 : ℚ) 180 →
      a.contains p = true ∨ b.contains p = true → c.contains p = true)
    (hgap : c.width.value < 360) :
    min (reach a b).value (reach b a).value ≤ c.width.value := by
  have hfirst := ha.add_width_le (fun p hp h => hcover p hp (Or.inl h)) hgap
  have hsecond := hb.add_width_le (fun p hp h => hcover p hp (Or.inr h)) hgap
  exact PlaceSearch.min_reach_le hfirst hsecond

/-- The union has the smaller of the two reaches as its width, up to a full turn. -/
theorem width_union (ha : a.WellPlaced) (hb : b.WellPlaced) :
    (a.union b).width.value = min 360 (min (reach a b).value (reach b a).value) := by
  obtain ⟨hfull, hunion⟩ | ⟨start, span, -, hspan, hlt, hunion⟩ := union_cases a b
  · rw [hunion, value_width, min_eq_left hfull]
    norm_num
  · have hnonneg : 0 ≤ span.value :=
      hspan ▸ le_min (ha.reach_nonneg b) (hb.reach_nonneg a)
    rw [hunion, width_normalizeLng hnonneg hlt, ← hspan, min_eq_right hlt.le]

theorem WellPlaced.union (ha : a.WellPlaced) (hb : b.WellPlaced) : (a.union b).WellPlaced := by
  have hlat : min a.south.value b.south.value ≤ max a.north.value b.north.value :=
    (min_le_left _ _).trans (ha.south_le_north.trans (le_max_left _ _))
  obtain ⟨-, hunion⟩ | ⟨start, span, hstart, hspan, hlt, hunion⟩ := union_cases a b
  · rw [hunion]
    exact ⟨by norm_num, by norm_num, hlat⟩
  · have hwest : start.value ∈ Set.Icc (-180 : ℚ) 180 := by
      obtain ⟨rfl, -⟩ | ⟨rfl, -⟩ := hstart
      · exact ha.west
      · exact hb.west
    have hnonneg : 0 ≤ span.value :=
      hspan ▸ le_min (ha.reach_nonneg b) (hb.reach_nonneg a)
    rw [hunion]
    exact ⟨hwest, normalizeLng_mem hwest hnonneg hlt, hlat⟩

/-- Both arcs lie in the arc of the union. -/
theorem arc_subset_union (ha : a.WellPlaced) (hb : b.WellPlaced) :
    arc a.west.value a.width.value ⊆ arc (a.union b).west.value (a.union b).width.value ∧
      arc b.west.value b.width.value ⊆ arc (a.union b).west.value (a.union b).width.value := by
  have hwidth := width_union ha hb
  obtain ⟨hfull, hunion⟩ | ⟨start, span, hstart, hspan, hlt, hunion⟩ := union_cases a b
  · rw [min_eq_left hfull] at hwidth
    rw [hwidth]
    exact ⟨fun x _ => (Arc.wrap_lt _).le, fun x _ => (Arc.wrap_lt _).le⟩
  · rw [← hspan, min_eq_right hlt.le] at hwidth
    rw [hwidth, hunion]
    obtain ⟨rfl, rfl⟩ | ⟨rfl, rfl⟩ := hstart
    · exact ⟨arc_subset_reach_left a b, arc_subset_reach_right a b⟩
    · exact ⟨arc_subset_reach_right b a, arc_subset_reach_left b a⟩

theorem south_union (a b : Box ExactDegrees) :
    (a.union b).south.value = min a.south.value b.south.value := by
  obtain ⟨-, hunion⟩ | ⟨_, _, -, -, -, hunion⟩ := union_cases a b <;> rw [hunion] <;> rfl

theorem north_union (a b : Box ExactDegrees) :
    (a.union b).north.value = max a.north.value b.north.value := by
  obtain ⟨-, hunion⟩ | ⟨_, _, -, -, -, hunion⟩ := union_cases a b <;> rw [hunion] <;> rfl

/-- For boxes with longitudes from -180 to 180, whether they cross the meridian
    there or not, their union is the least cover. -/
theorem isLeastCover_union (ha : a.WellPlaced) (hb : b.WellPlaced) :
    IsLeastCover a b (a.union b) where
  wellPlaced := ha.union hb
  covers p hp := by
    obtain ⟨hfirst, hsecond⟩ := arc_subset_union ha hb
    rw [contains_iff, south_union, north_union]
    obtain hp | hp := hp
    · obtain ⟨hlow, hhigh, hlng⟩ := contains_iff.mp hp
      exact ⟨(min_le_left _ _).trans hlow, hhigh.trans (le_max_left _ _), hfirst hlng⟩
    · obtain ⟨hlow, hhigh, hlng⟩ := contains_iff.mp hp
      exact ⟨(min_le_right _ _).trans hlow, hhigh.trans (le_max_right _ _), hsecond hlng⟩
  south := south_union a b
  north := north_union a b
  least c hc hcover := by
    rw [width_union ha hb]
    obtain hgap | hfull := hc.width_le.lt_or_eq
    · exact (min_le_right _ _).trans (ha.min_reach_le hb hcover hgap)
    · exact (min_le_left _ _).trans hfull.ge

/-- A box across the meridian at 180 degrees, joined with one further east of it. -/
theorem isLeastCover_union_fiji :
    let fiji : Box ExactDegrees := ⟨⟨-21⟩, ⟨177⟩, ⟨-12⟩, ⟨-178⟩⟩
    let east : Box ExactDegrees := ⟨⟨-15⟩, ⟨-145⟩, ⟨-10⟩, ⟨-140⟩⟩
    fiji.WellPlaced ∧ east.WellPlaced ∧
      fiji.union east = ⟨⟨-21⟩, ⟨177⟩, ⟨-10⟩, ⟨-140⟩⟩ ∧ IsLeastCover fiji east (fiji.union east) := by
  intro fiji east
  have hfiji : fiji.WellPlaced := ⟨by norm_num [fiji], by norm_num [fiji], by norm_num [fiji]⟩
  have heast : east.WellPlaced := ⟨by norm_num [east], by norm_num [east], by norm_num [east]⟩
  exact ⟨hfiji, heast, by decide +kernel, isLeastCover_union hfiji heast⟩

end PlaceSearch.Box
