-- SUMMARY: The area that a search shows: it holds the center and everything that was searched for.
import PlaceSearch.Proofs.Geo.Cover
import PlaceSearch.Proofs.Search.Lookup

/-!
# Areas that fit their search

The area of a search is moved into view and its center is marked, so the one has to
hold the other, and all of what was drawn or found. A box holds its own center, half
its width from where it starts, also where that is beyond 180 degrees. Joining boxes
keeps the points of all of them, however many there are; the box around the vertices
of a polygon holds the anchor as one of them.
-/

namespace PlaceSearch

namespace Box

open Arc (wrap)

variable {a b c u : Box ExactDegrees} {bs : List (Box ExactDegrees)}

/-! ## The center -/

/-- Longitudes are brought back by full turns. -/
theorem wrap_normalizeLng_sub (x : ExactDegrees) (start : ℚ) :
    wrap ((normalizeLng x).value - start) = wrap (x.value - start) := by
  rw [value_normalizeLng]
  split
  · exact Arc.wrap_congr (k := -1) (by push_cast; ring)
  · rfl

theorem value_center_lat (b : Box ExactDegrees) :
    b.center.lat.value = (b.south.value + b.north.value) / 2 := rfl

theorem value_half_width (b : Box ExactDegrees) :
    (Coordinate.half b.width).value = b.width.value / 2 := rfl

theorem WellPlaced.center_lng_mem (h : b.WellPlaced) :
    b.center.lng.value ∈ Set.Icc (-180 : ℚ) 180 := by
  have hnonneg := h.width_nonneg
  have hle := h.width_le
  apply normalizeLng_mem h.west <;> rw [value_half_width] <;> linarith

theorem WellPlaced.contains_center (h : b.WellPlaced) : b.contains b.center = true := by
  have hlat := h.south_le_north
  have hnonneg := h.width_nonneg
  rw [contains_iff, value_center_lat]
  refine ⟨by linarith, by linarith, ?_⟩
  rw [mem_arc]
  calc wrap (b.center.lng.value - b.west.value)
    _ = wrap (b.west.value + b.width.value / 2 - b.west.value) := wrap_normalizeLng_sub _ _
    _ = wrap (b.width.value / 2) := by rw [add_sub_cancel_left]
    _ ≤ b.width.value / 2 := Arc.wrap_le_self (by linarith)
    _ ≤ b.width.value := by linarith

/-! ## Boxes within boxes -/

/-- All points of the first box are points of the second. -/
def Within (a b : Box ExactDegrees) : Prop := ∀ p, a.contains p = true → b.contains p = true

theorem Within.refl (b : Box ExactDegrees) : b.Within b := fun _ hp => hp

theorem Within.trans (hab : a.Within b) (hbc : b.Within c) : a.Within c :=
  fun p hp => hbc p (hab p hp)

theorem within_of_subset (hsouth : b.south.value ≤ a.south.value)
    (hnorth : a.north.value ≤ b.north.value) (hlngs : a.lngs ⊆ b.lngs) : a.Within b := by
  intro p hp
  obtain ⟨hlow, hhigh, hlng⟩ := contains_iff.mp hp
  exact contains_iff.mpr ⟨hsouth.trans hlow, hhigh.trans hnorth, hlngs hlng⟩

theorem within_union (ha : a.WellPlaced) (hb : b.WellPlaced) :
    a.Within (a.union b) ∧ b.Within (a.union b) := by
  obtain ⟨hfirst, hsecond⟩ := lngs_subset_union ha hb
  have hsouth := south_union a b
  have hnorth := north_union a b
  constructor
  · exact within_of_subset (hsouth ▸ min_le_left _ _) (hnorth ▸ le_max_left _ _) hfirst
  · exact within_of_subset (hsouth ▸ min_le_right _ _) (hnorth ▸ le_max_right _ _) hsecond

/-- Well placed, with all boxes of a list within. -/
structure Encloses (bs : List (Box ExactDegrees)) (u : Box ExactDegrees) : Prop where
  wellPlaced : u.WellPlaced
  within : ∀ b ∈ bs, b.Within u

theorem Encloses.concat (h : Encloses bs u) (hc : c.WellPlaced) :
    Encloses (bs ++ [c]) (u.union c) where
  wellPlaced := h.wellPlaced.union hc
  within b hb := by
    obtain ⟨hu, hlast⟩ := within_union h.wellPlaced hc
    obtain hb | hb := List.mem_append.mp hb
    · exact (h.within b hb).trans hu
    · rwa [List.mem_singleton.mp hb]

/-- The union of boxes encloses all of them, also those that start at 180 degrees. -/
theorem encloses_of_unionAll (hplaced : ∀ b ∈ bs, b.WellPlaced)
    (h : Resolved.unionAll bs = some u) : Encloses bs u := by
  cases bs with
  | nil => cases h
  | cons b rest =>
    obtain rfl := Option.some.inj h
    apply foldl_union
    · exact ⟨hplaced b List.mem_cons_self, by simp [Within.refl]⟩
    · intro seen c unseen u hsplit hseen
      exact hseen.concat (hplaced c (by simp [hsplit]))

/-! ## Corners -/

/-- A box between two corners with longitudes from -180 to 180. -/
def IsSpanned (b : Box ExactDegrees) : Prop :=
  ∃ southWest northEast : Point ExactDegrees, southWest.lng.value ∈ Set.Icc (-180 : ℚ) 180 ∧
    northEast.lng.value ∈ Set.Icc (-180 : ℚ) 180 ∧ b = ofCorners southWest northEast

theorem IsSpanned.wellPlaced (h : b.IsSpanned) : b.WellPlaced := by
  obtain ⟨southWest, northEast, hwest, heast, rfl⟩ := h
  exact ⟨hwest, heast, min_le_max⟩

/-- The box holds a center, whose longitude lies from -180 to 180, and all points of a set. -/
structure Frames (b : Box ExactDegrees) (center : Point ExactDegrees)
    (points : Set (Point ExactDegrees)) : Prop where
  center_mem : b.contains center = true
  center_lng : center.lng.value ∈ Set.Icc (-180 : ℚ) 180
  covers : ∀ p ∈ points, b.contains p = true

theorem WellPlaced.frames (h : b.WellPlaced) {points : Set (Point ExactDegrees)}
    (hcovers : ∀ p ∈ points, b.contains p = true) : b.Frames b.center points :=
  ⟨h.contains_center, h.center_lng_mem, hcovers⟩

end Box

theorem Polygon.frames_bounds (area : Polygon ExactDegrees)
    (hlng : ∀ v ∈ area.vertices, v.lng.value ∈ Set.Icc (-180 : ℚ) 180) :
    area.bounds.Frames area.anchor {v | v ∈ area.vertices} := by
  have hanchor : area.anchor ∈ area.vertices := List.head_mem _
  have hvertices : area.anchor :: area.vertices.tail = area.vertices := List.cons_head_tail _
  have hleast := Box.isLeastAround_covering area.anchor area.vertices.tail
  rw [hvertices] at hleast
  have hcovers := (hleast hlng).covers
  exact ⟨hcovers _ hanchor, hlng _ hanchor, hcovers⟩

/-- All boxes that are found, for an address or along a route, come as two corners. -/
structure Services.GivesCorners (services : Services ExactDegrees) : Prop where
  geocode : ∀ address b, services.geocode address = .ok (some b) → b.IsSpanned
  route : ∀ origin destination r, services.route origin destination = .ok r → r.bounds.IsSpanned

/-- The scope shows an area, with its center in it and all points of a set. -/
def Scope.Fits (scope : Scope ExactDegrees) (points : Set (Point ExactDegrees)) : Prop :=
  ∃ bounds, scope.bounds = some bounds ∧ bounds.Frames scope.center points

namespace Resolved

variable {services : Services ExactDegrees}

/-! ## Scopes -/

/-- What the areas of searches hold whenever one of them is ready. -/
structure ShowsAll (services : Services ExactDegrees) : Prop where
  polygon : ∀ (area : Option (Polygon ExactDegrees)) scope,
    (∀ p ∈ area, ∀ v ∈ p.vertices, v.lng.value ∈ Set.Icc (-180 : ℚ) 180) →
    polygon area = .ready scope → scope.Fits {v | ∃ p ∈ area, v ∈ p.vertices}
  /-- All points of all boxes found, whichever names they were found for. -/
  region : ∀ column typed tags territory scope,
    (region services column typed tags territory).value = .ready scope →
    scope.Fits {p | ∃ name ∈ regionNames typed tags, ∃ b,
      services.geocode (regionAddress territory name) = .ok (some b) ∧ b.contains p = true}
  route : ∀ ends meters scope, (route services ends meters).value = .ok (.ready scope) →
    scope.Fits {p | ∃ origin destination r, ends.both = some (origin, destination) ∧
      services.route origin destination = .ok r ∧ r.bounds.contains p = true}

theorem fits_of_polygon_eq_ready {area : Option (Polygon ExactDegrees)} {scope : Scope ExactDegrees}
    (hlng : ∀ p ∈ area, ∀ v ∈ p.vertices, v.lng.value ∈ Set.Icc (-180 : ℚ) 180)
    (h : polygon area = .ready scope) : scope.Fits {v | ∃ p ∈ area, v ∈ p.vertices} := by
  cases area with
  | none => cases h
  | some p =>
    obtain rfl := Resolved.ready.inj h
    have hframes := p.frames_bounds (hlng p rfl)
    refine ⟨p.bounds, rfl, hframes.center_mem, hframes.center_lng, ?_⟩
    rintro v ⟨p', hp', hv⟩
    obtain rfl := Option.some.inj hp'
    exact hframes.covers v hv

theorem fits_of_ofNames_eq_ready (hservices : services.GivesCorners) {column : RegionColumn}
    {territory : String} {names : List String} {scope : Scope ExactDegrees}
    (h : ofNames services column territory names = .ready scope) :
    scope.Fits {p | ∃ name ∈ names, ∃ b,
      services.geocode (regionAddress territory name) = .ok (some b) ∧ b.contains p = true} := by
  obtain ⟨bounds, hunion, rfl⟩ := ofNames_eq_ready_iff.mp h
  have hplaced : ∀ b ∈ foundBoxes services territory names, b.WellPlaced := by
    intro b hb
    obtain ⟨name, -, hfound⟩ := mem_foundBoxes.mp hb
    exact (hservices.geocode _ b hfound).wellPlaced
  have hencloses := Box.encloses_of_unionAll hplaced hunion
  refine ⟨bounds, rfl, hencloses.wellPlaced.frames ?_⟩
  rintro p ⟨name, hname, b, hfound, hp⟩
  exact hencloses.within b (mem_foundBoxes.mpr ⟨name, hname, hfound⟩) p hp

theorem fits_of_route_value_eq_ready (hservices : services.GivesCorners)
    {ends : Endpoints ExactDegrees} {meters : Nat} {scope : Scope ExactDegrees}
    (h : (route services ends meters).value = .ok (.ready scope)) :
    scope.Fits {p | ∃ origin destination r, ends.both = some (origin, destination) ∧
      services.route origin destination = .ok r ∧ r.bounds.contains p = true} := by
  obtain ⟨origin, destination, r, hends, hroute, hready⟩ := eq_of_route_value_eq_ready h
  obtain rfl := Resolved.ready.inj hready
  have hplaced := (hservices.route origin destination r hroute).wellPlaced
  refine ⟨r.bounds, rfl, hplaced.frames ?_⟩
  rintro p ⟨origin', destination', r', hends', hroute', hp⟩
  obtain ⟨rfl, rfl⟩ := Prod.mk.inj (Option.some.inj (hends'.symm.trans hends))
  obtain rfl := Except.ok.inj (hroute'.symm.trans hroute)
  exact hp

/-- Whatever a polygon, a region search or a route resolves to, its area holds its center and
    all that was drawn or found. -/
theorem showsAll (hservices : services.GivesCorners) : ShowsAll services where
  polygon _ _ hlng h := fits_of_polygon_eq_ready hlng h
  region column typed tags territory scope h := by
    cases column with
    | none => cases h
    | some column =>
      rw [region_value_some] at h
      exact fits_of_ofNames_eq_ready hservices h
  route _ _ _ h := fits_of_route_value_eq_ready hservices h

/-- Three regions on both sides of the meridian at 180 degrees, one of which is not found: the
    center of the area is beyond the meridian, seen from where the area starts. -/
theorem showsAll_acrossMeridian :
    let suva : Box ExactDegrees := Box.ofCorners ⟨⟨-12⟩, ⟨177⟩⟩ ⟨⟨-21⟩, ⟨-178⟩⟩
    let apia : Box ExactDegrees := Box.ofCorners ⟨⟨-14⟩, ⟨-172⟩⟩ ⟨⟨-13⟩, ⟨-171⟩⟩
    let places : Services ExactDegrees :=
      { Services.knowing [("Suva, Oceania", suva), ("Apia, Oceania", apia)] with
        route := fun origin destination => .ok ⟨"", [origin, destination], suva⟩ }
    let column : RegionColumn := ⟨⟨"locality_names", by decide⟩, .array⟩
    let names := ["Apia", "Atlantis", "Suva"]
    places.GivesCorners ∧ ShowsAll places ∧
      (region places (some column) "suva" ["apia", "atlantis"] "Oceania").value = .ready {
        condition := some (.region column names)
        center := ⟨⟨-33 / 2⟩, ⟨-177⟩⟩
        preamble := none
        region := some ⟨column, names⟩
        bounds := some ⟨⟨-21⟩, ⟨177⟩, ⟨-12⟩, ⟨-171⟩⟩ } := by
  intro suva apia places column names
  have hsuva : suva.IsSpanned := ⟨_, _, by norm_num, by norm_num, rfl⟩
  have hapia : apia.IsSpanned := ⟨_, _, by norm_num, by norm_num, rfl⟩
  have hplaces : places.GivesCorners := by
    refine ⟨fun address b h => ?_, fun origin destination r h => ?_⟩
    · obtain rfl | rfl : b = suva ∨ b = apia := by
        simpa using Services.mem_of_geocode_knowing h
      · exact hsuva
      · exact hapia
    · obtain rfl := Except.ok.inj h
      exact hsuva
  exact ⟨hplaces, showsAll hplaces, by decide +kernel⟩

end Resolved

end PlaceSearch
