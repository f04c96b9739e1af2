-- SUMMARY: The union of many boxes: what it is in every order of the boxes, and the hull it is as long as a longitude stays open.
import Mathlib.Order.Bounds.Basic
import PlaceSearch.Proofs.Geo.Gap

/-!
# Unions of many boxes

Boxes are joined one after the other, each with the union of those before it. In
every order the result covers all of them, and its latitudes are the least and the
greatest of theirs. As long as every step leaves open one and the same longitude,
seen from there the result goes from the first start to the last end.
-/

namespace PlaceSearch

attribute [ext] ExactDegrees Box

namespace Box

variable {a b c u : Box ExactDegrees} {z : ℚ} {bs bs' : List (Box ExactDegrees)}

/-! ## Many boxes -/

/-- The values that a measure takes on the boxes of a list. -/
def values (f : Box ExactDegrees → ℚ) (bs : List (Box ExactDegrees)) : Set ℚ := f '' {b | b ∈ bs}

theorem mem_values {f : Box ExactDegrees → ℚ} {x : ℚ} : x ∈ values f bs ↔ ∃ b ∈ bs, f b = x :=
  Iff.rfl

theorem values_concat (f : Box ExactDegrees → ℚ) (bs : List (Box ExactDegrees))
    (c : Box ExactDegrees) : values f (bs ++ [c]) = values f bs ∪ {f c} := by
  ext x
  simp only [mem_values, List.mem_append, List.mem_singleton, Set.mem_union, Set.mem_singleton_iff,
    or_and_right, exists_or, exists_eq_left]
  rw [eq_comm]

theorem values_perm (f : Box ExactDegrees → ℚ) (h : bs'.Perm bs) : values f bs' = values f bs := by
  ext x
  simp only [mem_values, h.mem_iff]

theorem isLeast_values_concat {f : Box ExactDegrees → ℚ} {x : ℚ} (h : IsLeast (values f bs) x)
    (c : Box ExactDegrees) : IsLeast (values f (bs ++ [c])) (min x (f c)) :=
  values_concat f bs c ▸ h.union isLeast_singleton

theorem isGreatest_values_concat {f : Box ExactDegrees → ℚ} {x : ℚ}
    (h : IsGreatest (values f bs) x) (c : Box ExactDegrees) :
    IsGreatest (values f (bs ++ [c])) (max x (f c)) :=
  values_concat f bs c ▸ h.union isGreatest_singleton

/-- What holds of the first box and is kept by every union with one of the others holds of
    the union of all. -/
theorem foldl_union {P : List (Box ExactDegrees) → Box ExactDegrees → Prop}
    (hfirst : P [b] b)
    (hstep : ∀ seen c unseen u, b :: bs = seen ++ c :: unseen → P seen u →
      P (seen ++ [c]) (u.union c)) :
    P (b :: bs) (bs.foldl union b) := by
  suffices hrun : ∀ seen todo u, b :: bs = seen ++ todo → P seen u →
      P (b :: bs) (todo.foldl union u) from hrun [b] bs b rfl hfirst
  intro seen todo
  induction todo generalizing seen with
  | nil =>
    intro u hsplit hseen
    rw [hsplit, List.append_nil]
    exact hseen
  | cons c todo ih =>
    intro u hsplit hseen
    exact ih (seen ++ [c]) (u.union c) (by simp [hsplit]) (hstep seen c todo u hsplit hseen)

/-- Well placed, with a start below the meridian at 180 degrees, which is named -180 there. -/
structure Placed (b : Box ExactDegrees) : Prop extends b.WellPlaced where
  west_lt : b.west.value < 180

theorem Placed.union (ha : a.Placed) (hb : b.Placed) : (a.union b).Placed where
  toWellPlaced := ha.toWellPlaced.union hb.toWellPlaced
  west_lt := by
    obtain ⟨-, hunion⟩ | ⟨start, span, hstart, -, -, hunion⟩ := union_cases a b
    · rw [hunion]
      norm_num
    · rw [hunion]
      obtain ⟨rfl, -⟩ | ⟨rfl, -⟩ := hstart
      · exact ha.west_lt
      · exact hb.west_lt

/-- What the union of boxes is in every order. -/
structure Joins (bs : List (Box ExactDegrees)) (u : Box ExactDegrees) : Prop where
  placed : u.Placed
  south : IsLeast (values (fun b => b.south.value) bs) u.south.value
  north : IsGreatest (values (fun b => b.north.value) bs) u.north.value
  covers : ∀ b ∈ bs, b.lngs ⊆ u.lngs

theorem Joins.concat (h : Joins bs u) (hc : c.Placed) : Joins (bs ++ [c]) (u.union c) where
  placed := h.placed.union hc
  south := south_union u c ▸ isLeast_values_concat h.south c
  north := north_union u c ▸ isGreatest_values_concat h.north c
  covers b hb := by
    obtain ⟨hu, hlast⟩ := lngs_subset_union h.placed.toWellPlaced hc.toWellPlaced
    obtain hb | hb := List.mem_append.mp hb
    · exact (h.covers b hb).trans hu
    · rwa [List.mem_singleton.mp hb]

theorem Joins.perm (h : Joins bs u) (hperm : bs'.Perm bs) : Joins bs' u where
  placed := h.placed
  south := values_perm _ hperm ▸ h.south
  north := values_perm _ hperm ▸ h.north
  covers b hb := h.covers b (hperm.mem_iff.mp hb)

theorem joins_foldl (hplaced : ∀ c ∈ b :: bs, c.Placed) : Joins (b :: bs) (bs.foldl union b) := by
  apply foldl_union
  · refine ⟨hplaced b List.mem_cons_self, ?_, ?_, ?_⟩
    · simp [values]
    · simp [values]
    · simp
  · intro seen c unseen u hsplit hseen
    exact hseen.concat (hplaced c (by simp [hsplit]))

/-- The union ends where its width says, and 180 degrees is named so there. -/
theorem Placed.east_union (ha : a.Placed) (hb : b.Placed) :
    (a.union b).east = normalizeLng ((a.union b).west + (a.union b).width) := by
  have hwidth := width_union ha.toWellPlaced hb.toWellPlaced
  obtain ⟨hfull, hunion⟩ | ⟨start, span, hstart, hspan, hlt, hunion⟩ := union_cases a b
  · rw [min_eq_left hfull] at hwidth
    have hturn : (a.union b).width = Coordinate.ofInt 360 := congrArg ExactDegrees.mk hwidth
    rw [hturn, hunion]
    apply ExactDegrees.ext
    rw [value_normalizeLng]
    norm_num
  · rw [← hspan, min_eq_right hlt.le] at hwidth
    have hsame : (a.union b).width = span := congrArg ExactDegrees.mk hwidth
    rw [hsame, hunion]

/-- A box over all longitudes goes from -180 to 180. -/
theorem WellPlaced.eq_of_full (h : b.WellPlaced) (hfull : b.width.value = 360) :
    b.west = Coordinate.ofInt (-180) ∧ b.east = Coordinate.halfTurn := by
  obtain ⟨hwest, hwest'⟩ := h.west
  obtain ⟨heast, heast'⟩ := h.east
  rw [value_width] at hfull
  have hwestValue : b.west.value = -180 := by
    split at hfull <;> linarith
  have heastValue : b.east.value = 180 := by
    split at hfull <;> linarith
  exact ⟨congrArg ExactDegrees.mk hwestValue, congrArg ExactDegrees.mk heastValue⟩

/-- A box that leaves no longitude open has the width of a full turn. -/
theorem WellPlaced.width_eq_of_lngs (h : b.WellPlaced) (hall : ∀ x, x ∈ b.lngs) :
    b.width.value = 360 := by
  apply le_antisymm h.width_le
  by_contra hgap
  have hnonneg := h.width_nonneg
  have hmem := hall (b.west.value + (b.width.value + 360) / 2)
  rw [lngs, mem_arc, add_sub_cancel_left, Arc.wrap_eq_self (by linarith) (by linarith)] at hmem
  linarith

theorem east_foldl {rest : List (Box ExactDegrees)} (hplaced : ∀ c ∈ b :: rest, c.Placed)
    (hne : rest ≠ []) :
    (rest.foldl union b).east =
      normalizeLng ((rest.foldl union b).west + (rest.foldl union b).width) := by
  obtain ⟨front, last, rfl⟩ := (List.eq_nil_or_concat rest).resolve_left hne
  rw [List.concat_eq_append, List.foldl_append]
  apply Placed.east_union
  · exact (joins_foldl fun c hc => hplaced c (by grind)).placed
  · exact hplaced last (by simp)

/-- Two unions of the same boxes are one if they start at one longitude and are as wide. -/
theorem foldl_union_eq {b' : Box ExactDegrees} {rest rest' : List (Box ExactDegrees)}
    (hplaced : ∀ c ∈ b :: rest, c.Placed) (hperm : (b' :: rest').Perm (b :: rest))
    (hwest : (rest'.foldl union b').west.value = (rest.foldl union b).west.value)
    (hwidth : (rest'.foldl union b').width.value = (rest.foldl union b).width.value) :
    rest'.foldl union b' = rest.foldl union b := by
  have hplaced' : ∀ c ∈ b' :: rest', c.Placed := fun c hc => hplaced c (hperm.mem_iff.mp hc)
  have hjoins := joins_foldl hplaced
  have hjoins' := joins_foldl hplaced'
  have hlength : rest'.length = rest.length := Nat.succ.inj hperm.length_eq
  by_cases hne : rest = []
  · obtain rfl := hne
    obtain rfl := List.length_eq_zero_iff.mp hlength
    exact List.singleton_perm_singleton.mp hperm
  · have hne' : rest' ≠ [] := by
      intro hnil
      rw [hnil, List.length_nil] at hlength
      exact hne (List.length_eq_zero_iff.mp hlength.symm)
    have heast := east_foldl hplaced hne
    have heast' := east_foldl hplaced' hne'
    have hsouth := (values_perm _ hperm ▸ hjoins'.south).unique hjoins.south
    have hnorth := (values_perm _ hperm ▸ hjoins'.north).unique hjoins.north
    have hwest' := ExactDegrees.ext hwest
    rw [hwest', ExactDegrees.ext hwidth, ← heast] at heast'
    exact Box.ext (ExactDegrees.ext hsouth) hwest' (ExactDegrees.ext hnorth) heast'

/-! ## Hulls -/

/-- Seen from a longitude it leaves open, the box goes from the first start of the others
    to their last end. -/
structure IsHull (z : ℚ) (bs : List (Box ExactDegrees)) (u : Box ExactDegrees) : Prop where
  placed : u.Placed
  notMem : z ∉ u.lngs
  west : IsGreatest (values (fromWest z) bs) (fromWest z u)
  east : IsLeast (values (fromEast z) bs) (fromEast z u)

theorem isHull_singleton (hb : b.Placed) (hz : z ∉ b.lngs) : IsHull z [b] b where
  placed := hb
  notMem := hz
  west := by simp [values]
  east := by simp [values]

theorem IsHull.concat (h : IsHull z bs u) (hc : c.Placed) (hz : z ∉ (u.union c).lngs) :
    IsHull z (bs ++ [c]) (u.union c) := by
  obtain ⟨hwest, heast⟩ := fromWest_union h.placed.toWellPlaced hc.toWellPlaced hz
  refine ⟨h.placed.union hc, hz, ?_, ?_⟩
  · rw [hwest]
    exact isGreatest_values_concat h.west c
  · rw [heast]
    exact isLeast_values_concat h.east c

/-- The union is a hull if at every step a box and the union of those before it have
    middles less than half a turn apart. -/
theorem isHull_foldl (hplaced : ∀ c ∈ b :: bs, c.Placed) (hz : ∀ c ∈ b :: bs, z ∉ c.lngs)
    (hnear : ∀ seen c unseen u, b :: bs = seen ++ c :: unseen → IsHull z seen u →
      fromMiddle z u - fromMiddle z c ≤ 180 ∧ fromMiddle z c - fromMiddle z u < 180) :
    IsHull z (b :: bs) (bs.foldl union b) := by
  apply foldl_union
  · exact isHull_singleton (hplaced b List.mem_cons_self) (hz b List.mem_cons_self)
  · intro seen c unseen u hsplit hseen
    have hmem : c ∈ b :: bs := by simp [hsplit]
    have hc := hplaced c hmem
    apply hseen.concat hc
    rw [not_mem_lngs_union_iff hseen.placed.toWellPlaced hc.toWellPlaced hseen.notMem (hz c hmem)]
    exact hnear seen c unseen u hsplit hseen

/-- The middle of a hull lies between the middles of two of the boxes. -/
theorem IsHull.exists_fromMiddle_le (h : IsHull z bs u) :
    ∃ b ∈ bs, fromMiddle z u ≤ fromMiddle z b := by
  obtain ⟨b, hb, hwest⟩ := h.west.1
  have heast := h.east.2 (Set.mem_image_of_mem _ hb)
  refine ⟨b, hb, ?_⟩
  unfold fromMiddle
  linarith

theorem IsHull.exists_le_fromMiddle (h : IsHull z bs u) :
    ∃ b ∈ bs, fromMiddle z b ≤ fromMiddle z u := by
  obtain ⟨b, hb, heast⟩ := h.east.1
  have hwest := h.west.2 (Set.mem_image_of_mem _ hb)
  refine ⟨b, hb, ?_⟩
  unfold fromMiddle
  linarith

/-- Hulls of the same boxes start at one longitude and are as wide. -/
theorem IsHull.unique {u' : Box ExactDegrees} (h : IsHull z bs u) (h' : IsHull z bs' u')
    (hperm : bs'.Perm bs) : u'.west.value = u.west.value ∧ u'.width.value = u.width.value := by
  have hwest := (values_perm _ hperm ▸ h'.west).unique h.west
  have heast := (values_perm _ hperm ▸ h'.east).unique h.east
  constructor
  · exact Arc.eq_of_wrap_sub_eq ⟨h'.placed.west.1, h'.placed.west_lt⟩
      ⟨h.placed.west.1, h.placed.west_lt⟩ hwest
  · unfold fromEast at heast
    linarith

end Box

end PlaceSearch
