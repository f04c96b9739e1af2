-- SUMMARY: When the order in which boxes are joined decides about their union.
import Mathlib.Data.Finset.Max
import PlaceSearch.Proofs.Distinct
import PlaceSearch.Proofs.Geo.UnionAll
import PlaceSearch.Search.Resolved

/-!
# The order of unions

Joined in different orders, boxes may end up in different unions, of different
widths even: an early union can close a gap that a later one would need. This
cannot happen if all boxes have their middles within half a turn, seen from one
longitude outside of them. Conversely, the boxes next to the widest gap of all,
taken in order going west from there, leave it open at every step. So if all
orders lead to one union it leaves that gap open, and no two boxes joined first
may close it.
-/

namespace PlaceSearch.Box

open Arc (wrap wrap_nonneg)

variable {a b c u : Box ExactDegrees} {z : ℚ} {bs bs' : List (Box ExactDegrees)}

/-! ## The widest gap -/

/-- The longitude lies in a gap, and going east from any start, some box ends at least as
    far away as the last end is from the first start beside that gap. -/
structure IsWidestGap (bs : List (Box ExactDegrees)) (z : ℚ) : Prop where
  notMem : ∀ b ∈ bs, z ∉ b.lngs
  widest : ∀ k ∈ bs, ∃ b ∈ bs, ∀ a ∈ bs, ∀ c ∈ bs, fromWest z a - fromEast z c ≤ extent k b

/-- There is a start from which the furthest end is nearest. -/
theorem exists_nearest_end (hne : bs ≠ []) :
    ∃ i ∈ bs, ∃ last ∈ bs, (∀ b ∈ bs, extent i b ≤ extent i last) ∧
      ∀ k ∈ bs, ∃ b ∈ bs, extent i last ≤ extent k b := by
  have hnonempty : bs.toFinset.Nonempty := List.toFinset_nonempty_iff bs |>.mpr hne
  have hfurthest : ∀ k, ∃ b ∈ bs, ∀ c ∈ bs, extent k c ≤ extent k b := fun k => by
    simpa using bs.toFinset.exists_max_image (extent k) hnonempty
  choose last hlast hfar using hfurthest
  obtain ⟨i, hi, hleast⟩ : ∃ i ∈ bs, ∀ k ∈ bs, extent i (last i) ≤ extent k (last k) := by
    simpa using bs.toFinset.exists_min_image (fun k => extent k (last k)) hnonempty
  exact ⟨i, hi, last i, hlast i, hfar i, fun k hk => ⟨last k, hlast k, hleast k hk⟩⟩

/-- From the start that lies furthest from an open longitude, all ends come before a full turn. -/
theorem exists_extent_lt (hne : bs ≠ []) (hz : ∀ b ∈ bs, z ∉ b.lngs) :
    ∃ k ∈ bs, ∀ b ∈ bs, extent k b < 360 := by
  have hnonempty : bs.toFinset.Nonempty := List.toFinset_nonempty_iff bs |>.mpr hne
  obtain ⟨k, hk, hmost⟩ : ∃ k ∈ bs, ∀ c ∈ bs, fromWest z c ≤ fromWest z k := by
    simpa using bs.toFinset.exists_max_image (fromWest z) hnonempty
  refine ⟨k, hk, fun b hb => ?_⟩
  have hopen := not_mem_lngs.mp (hz b hb)
  have hlt := fromWest_lt z k
  rw [extent_of_le (hmost b hb)]
  linarith

/-- The middle of a gap, seen from there: `a` starts behind the gap, and all ends come
    before it. -/
theorem seen_from_middle {span : ℚ} (hb : b.WellPlaced) (hnonneg : 0 ≤ span) (hlt : span < 360)
    (hend : extent a b ≤ span) :
    fromWest (a.west.value + (span + 360) / 2) b ≤ (span + 360) / 2 ∧
      fromEast (a.west.value + (span + 360) / 2) b = (span + 360) / 2 - extent a b := by
  have hwidth := hb.width_nonneg
  have hstart := wrap_nonneg (b.west.value - a.west.value)
  rw [extent] at hend
  have hmiddle : wrap (a.west.value + (span + 360) / 2 - a.west.value) = (span + 360) / 2 := by
    rw [add_sub_cancel_left, Arc.wrap_eq_self (by linarith) (by linarith)]
  have hwest : fromWest (a.west.value + (span + 360) / 2) b =
      (span + 360) / 2 - wrap (b.west.value - a.west.value) := by
    rw [fromWest, Arc.wrap_sub_of_le (s := a.west.value), hmiddle]
    rw [hmiddle]
    linarith
  constructor
  · rw [hwest]
    linarith
  · rw [fromEast, hwest, extent]
    ring

/-- If a longitude is left open, so is the middle of the gap in front of the start from
    which the furthest end is nearest, and no gap is wider. -/
theorem exists_isWidestGap (hplaced : ∀ b ∈ bs, b.Placed) (hne : bs ≠ [])
    (hz : ∀ b ∈ bs, z ∉ b.lngs) : ∃ z', IsWidestGap bs z' := by
  obtain ⟨i, hi, last, hlast, hfar, hleast⟩ := exists_nearest_end hne
  obtain ⟨k, hk, hopen⟩ := exists_extent_lt hne hz
  obtain ⟨b, hb, hle⟩ := hleast k hk
  have hlt : extent i last < 360 := hle.trans_lt (hopen b hb)
  have hnonneg : 0 ≤ extent i last :=
    add_nonneg (wrap_nonneg _) (hplaced last hlast).width_nonneg
  have hseen := fun b hb =>
    seen_from_middle (hplaced b hb).toWellPlaced hnonneg hlt (hfar b hb)
  refine ⟨i.west.value + (extent i last + 360) / 2, fun b hb => ?_, fun k hk => ?_⟩
  · rw [not_mem_lngs, (hseen b hb).2]
    linarith [hfar b hb]
  · obtain ⟨b, hb, hle⟩ := hleast k hk
    refine ⟨b, hb, fun a ha c hc => ?_⟩
    rw [(hseen c hc).2]
    linarith [(hseen a ha).1, hfar c hc]

/-- The next box going west from the widest gap has its middle within half a turn behind the
    middle of those before it: otherwise all boxes could be reached from its start sooner. -/
theorem IsWidestGap.fromMiddle_sub_le {seen : List (Box ExactDegrees)} (h : IsWidestGap bs z)
    (hu : IsHull z seen u) (hseen : ∀ x ∈ seen, x ∈ bs) (hc : c ∈ bs)
    (hnext : ∀ d ∈ bs, fromWest z c < fromWest z d → d ∈ seen) :
    fromMiddle z u - fromMiddle z c ≤ 180 := by
  have hopenc := not_mem_lngs.mp (h.notMem c hc)
  have hltu := hu.placed.fromEast_lt z
  by_contra hapart
  unfold fromMiddle at hapart
  obtain ⟨first, hfirst, hwest⟩ := hu.west.1
  obtain ⟨d, hd, hwidest⟩ := h.widest c hc
  have hspan := hwidest first (hseen first hfirst) c hc
  rw [hwest] at hspan
  obtain hnear | hfar := le_or_gt (fromWest z d) (fromWest z c)
  · have hopend := not_mem_lngs.mp (h.notMem d hd)
    rw [extent_of_le hnear] at hspan
    linarith
  · have heast := hu.east.2 (Set.mem_image_of_mem _ (hnext d hd hfar))
    rw [extent_of_lt hfar] at hspan
    linarith

/-- Taken in order going west from the widest gap, the boxes leave it open. -/
theorem IsWidestGap.isHull_foldl (h : IsWidestGap (b :: bs) z)
    (hplaced : ∀ c ∈ b :: bs, c.Placed)
    (hsorted : (b :: bs).Pairwise fun a c => fromWest z c ≤ fromWest z a) :
    IsHull z (b :: bs) (bs.foldl union b) := by
  apply Box.isHull_foldl hplaced h.notMem
  intro seen c unseen u hsplit hseen
  have hmem : ∀ x, x ∈ b :: bs ↔ x ∈ seen ∨ x = c ∨ x ∈ unseen := by simp [hsplit]
  have hc := (hmem c).mpr (Or.inr (Or.inl rfl))
  rw [hsplit, List.pairwise_append, List.pairwise_cons] at hsorted
  obtain ⟨-, ⟨hafter, -⟩, hbefore⟩ := hsorted
  have hnext : ∀ d ∈ b :: bs, fromWest z c < fromWest z d → d ∈ seen := by
    intro d hd hfar
    obtain hdseen | rfl | hunseen := (hmem d).mp hd
    · exact hdseen
    · exact absurd hfar (lt_irrefl _)
    · exact absurd hfar (not_lt.mpr (hafter d hunseen))
  refine ⟨h.fromMiddle_sub_le hseen (fun x hx => (hmem x).mpr (Or.inl hx)) hc hnext, ?_⟩
  -- The other way round there is less than half a turn: `c` starts nearer and ends within a turn.
  obtain ⟨first, hfirst, hwest⟩ := hseen.west.1
  have hle : fromWest z c ≤ fromWest z first := hbefore first hfirst c List.mem_cons_self
  have hopenu := not_mem_lngs.mp hseen.notMem
  have hltc := (hplaced c hc).fromEast_lt z
  unfold fromMiddle
  linarith

/-! ## Orders -/

/-- The boxes cover all longitudes, or they leave one open from which the middles of any two
    of them are less than half a turn apart. -/
def Clustered (bs : List (Box ExactDegrees)) : Prop :=
  (∀ z, ∃ b ∈ bs, z ∈ b.lngs) ∨
    ∃ z, (∀ b ∈ bs, z ∉ b.lngs) ∧ ∀ a ∈ bs, ∀ b ∈ bs, fromMiddle z a - fromMiddle z b < 180

theorem IsWidestGap.perm (h : IsWidestGap bs z) (hperm : bs'.Perm bs) : IsWidestGap bs' z where
  notMem := by simpa only [hperm.mem_iff] using h.notMem
  widest := by simpa only [hperm.mem_iff] using h.widest

/-- Boxes with middles less than half a turn apart have a hull as their union. -/
theorem isHull_foldl_of_near (hplaced : ∀ c ∈ b :: bs, c.Placed) (hz : ∀ c ∈ b :: bs, z ∉ c.lngs)
    (hnear : ∀ a ∈ b :: bs, ∀ c ∈ b :: bs, fromMiddle z a - fromMiddle z c < 180) :
    IsHull z (b :: bs) (bs.foldl union b) := by
  apply isHull_foldl hplaced hz
  intro seen c unseen u hsplit hseen
  have hc : c ∈ b :: bs := by simp [hsplit]
  have hmem : ∀ x ∈ seen, x ∈ b :: bs := fun x hx => by simp [hsplit, hx]
  obtain ⟨above, habove, hupper⟩ := hseen.exists_fromMiddle_le
  obtain ⟨below, hbelow, hlower⟩ := hseen.exists_le_fromMiddle
  constructor
  · linarith [hnear above (hmem above habove) c hc]
  · linarith [hnear c hc below (hmem below hbelow)]

/-- What covers all longitudes goes from -180 to 180. -/
theorem Joins.eq_of_cover (h : Joins bs u) (hall : ∀ z, ∃ b ∈ bs, z ∈ b.lngs) :
    u.west = Coordinate.ofInt (-180) ∧ u.width.value = 360 := by
  have hwidth : u.width.value = 360 := by
    apply h.placed.width_eq_of_lngs
    intro x
    obtain ⟨c, hc, hx⟩ := hall x
    exact h.covers c hc hx
  exact ⟨(h.placed.eq_of_full hwidth).1, hwidth⟩

theorem Clustered.foldl_union_perm {b' : Box ExactDegrees} {rest rest' : List (Box ExactDegrees)}
    (h : Clustered (b :: rest)) (hplaced : ∀ c ∈ b :: rest, c.Placed)
    (hperm : (b' :: rest').Perm (b :: rest)) : rest'.foldl union b' = rest.foldl union b := by
  have hplaced' : ∀ c ∈ b' :: rest', c.Placed := fun c hc => hplaced c (hperm.mem_iff.mp hc)
  obtain hall | ⟨z, hz, hnear⟩ := h
  · obtain ⟨hwest, hwidth⟩ := (joins_foldl hplaced).eq_of_cover hall
    obtain ⟨hwest', hwidth'⟩ := (joins_foldl hplaced').eq_of_cover
      (by simpa only [hperm.mem_iff] using hall)
    apply foldl_union_eq hplaced hperm
    · rw [hwest, hwest']
    · rw [hwidth, hwidth']
  · have hhull := isHull_foldl_of_near hplaced hz hnear
    have hhull' := isHull_foldl_of_near hplaced' (by simpa only [hperm.mem_iff] using hz)
      (by simpa only [hperm.mem_iff] using hnear)
    obtain ⟨hwest, hwidth⟩ := hhull.unique hhull' hperm
    exact foldl_union_eq hplaced hperm hwest hwidth

/-- Clustered boxes have one union in every order. -/
theorem Clustered.unionAll_eq (h : Clustered bs) (hplaced : ∀ b ∈ bs, b.Placed)
    (hperm : bs'.Perm bs) : Resolved.unionAll bs' = Resolved.unionAll bs := by
  cases bs with
  | nil => rw [List.perm_nil.mp hperm]
  | cons b rest =>
    cases bs' with
    | nil => cases hperm.length_eq
    | cons b' rest' => exact congrArg some (h.foldl_union_perm hplaced hperm)

/-- In whichever order boxes are joined, those joined first leave open what the union leaves
    open, so their middles are less than half a turn apart. -/
theorem fromMiddle_sub_lt {rest : List (Box ExactDegrees)} (hplaced : ∀ x ∈ a :: c :: rest, x.Placed)
    (hz : z ∉ (rest.foldl union (a.union c)).lngs) : fromMiddle z c - fromMiddle z a < 180 := by
  have ha := hplaced a (by simp)
  have hc := hplaced c (by simp)
  have hrest : ∀ x ∈ a.union c :: rest, x.Placed := by
    intro x hx
    obtain rfl | hx := List.mem_cons.mp hx
    · exact ha.union hc
    · exact hplaced x (by simp [hx])
  have hpair : z ∉ (a.union c).lngs := fun hmem =>
    hz ((joins_foldl hrest).covers _ List.mem_cons_self hmem)
  obtain ⟨hsuba, hsubc⟩ := lngs_subset_union ha.toWellPlaced hc.toWellPlaced
  exact ((not_mem_lngs_union_iff ha.toWellPlaced hc.toWellPlaced (fun hmem => hpair (hsuba hmem))
    (fun hmem => hpair (hsubc hmem))).mp hpair).2

/-- The boxes by their starts, going west from the longitude. -/
theorem exists_sorted (z : ℚ) (bs : List (Box ExactDegrees)) :
    ∃ bs' : List (Box ExactDegrees), bs'.Perm bs ∧
      bs'.Pairwise fun a c => fromWest z c ≤ fromWest z a := by
  let before : Box ExactDegrees → Box ExactDegrees → Bool :=
    fun a c => decide (fromWest z c ≤ fromWest z a)
  have hsorted : (bs.mergeSort before).Pairwise fun a c => before a c = true := by
    apply List.pairwise_mergeSort
    · intro a c d hac hcd
      exact decide_eq_true ((of_decide_eq_true hcd).trans (of_decide_eq_true hac))
    · intro a c
      simpa [before] using le_total _ _
  exact ⟨bs.mergeSort before, List.mergeSort_perm bs before, hsorted.imp of_decide_eq_true⟩

/-- Some order of the boxes leaves the widest gap open. -/
theorem IsWidestGap.exists_perm (h : IsWidestGap bs z) (hplaced : ∀ b ∈ bs, b.Placed)
    (hne : bs ≠ []) :
    ∃ bs' u, bs'.Perm bs ∧ Resolved.unionAll bs' = some u ∧ z ∉ u.lngs := by
  obtain ⟨bs', hperm, hsorted⟩ := exists_sorted z bs
  cases bs' with
  | nil => exact absurd (List.nil_perm.mp hperm) hne
  | cons b rest =>
    have hhull := (h.perm hperm).isHull_foldl (fun c hc => hplaced c (hperm.mem_iff.mp hc)) hsorted
    exact ⟨b :: rest, rest.foldl union b, hperm, rfl, hhull.notMem⟩

/-- Boxes that have one union in every order are clustered. -/
theorem clustered_of_unionAll_eq (hplaced : ∀ b ∈ bs, b.Placed)
    (h : ∀ bs', bs'.Perm bs → Resolved.unionAll bs' = Resolved.unionAll bs) : Clustered bs := by
  by_cases hall : ∀ z, ∃ b ∈ bs, z ∈ b.lngs
  · exact Or.inl hall
  · simp only [not_forall, not_exists, not_and] at hall
    obtain ⟨z₀, hz₀⟩ := hall
    by_cases hne : bs = []
    · exact Or.inr ⟨z₀, hz₀, by simp [hne]⟩
    · obtain ⟨z, hgap⟩ := exists_isWidestGap hplaced hne hz₀
      obtain ⟨bs', u, hperm, hunion, hopen⟩ := hgap.exists_perm hplaced hne
      refine Or.inr ⟨z, hgap.notMem, fun a ha c hc => ?_⟩
      by_cases heq : a = c
      · rw [heq, sub_self]
        norm_num
      · have hpair : [c, a].Nodup := by simpa using Ne.symm heq
        have hmem : ∀ x ∈ [c, a], x ∈ bs := by simp [ha, hc]
        obtain ⟨rest, hfirst⟩ : ∃ rest, (c :: a :: rest).Perm bs :=
          Distinct.exists_perm_append hpair hmem
        have hsame : rest.foldl union (c.union a) = u :=
          Option.some.inj ((h _ hfirst).trans ((h _ hperm).symm.trans hunion))
        apply fromMiddle_sub_lt (fun x hx => hplaced x (hfirst.mem_iff.mp hx))
        rw [hsame]
        exact hopen

/-- The order of boxes does not matter exactly if they are clustered. -/
theorem unionAll_perm_iff (hplaced : ∀ b ∈ bs, b.Placed) :
    (∀ bs', bs'.Perm bs → Resolved.unionAll bs' = Resolved.unionAll bs) ↔ Clustered bs :=
  ⟨clustered_of_unionAll_eq hplaced, fun h _ hperm => h.unionAll_eq hplaced hperm⟩

end PlaceSearch.Box
