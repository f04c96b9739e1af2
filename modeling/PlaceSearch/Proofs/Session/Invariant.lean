-- SUMMARY: What holds of every form that edits and runs can lead to.
import PlaceSearch.Proofs.Filter.Selection
import PlaceSearch.Proofs.Search.Region
import PlaceSearch.Proofs.Session.History

/-!
# The invariant of a form

Whatever the defaults are and whatever is edited, a form stays within the range
of resolutions, asks for cells in function mode, and holds only entries that are
fit to be searched for. Mode, cells and resolution depend on each other: each is
set by an edit of its own, and a change of mode resets the other two.
-/

namespace PlaceSearch

theorem le_clampNat {low high : Nat} (h : low ≤ high) (n : Nat) : low ≤ clampNat low high n := by
  unfold clampNat
  split
  · exact Nat.le_refl low
  · split <;> omega

theorem clampNat_le {low high : Nat} (h : low ≤ high) (n : Nat) : clampNat low high n ≤ high := by
  unfold clampNat
  split
  · exact h
  · split <;> omega

theorem Mode.maxResolution_le (m : Mode) : m.maxResolution ≤ 12 := by cases m <;> decide

theorem Mode.minResolution_le (m : Mode) : FormDefaults.minResolution ≤ m.maxResolution := by
  cases m <;> decide

namespace Form

/-- What holds of every form. -/
structure Sound {R : Type} (f : Form R) : Prop where
  one_le_resolution : 1 ≤ f.resolution
  resolution_le : f.resolution ≤ 12
  resolution_le_of_function : f.mode = .function → f.resolution ≤ 8
  cells_of_function : f.mode = .function → f.cells = true
  selection : f.selection.Sound
  regionTags_ne_empty : ∀ tag ∈ f.regionTags, tag ≠ ""
  regionTags_startVisibly : ∀ tag ∈ f.regionTags, Text.StartsVisibly tag.toList
  regionTags_nodup : f.regionTags.Nodup
  polygon_three_le : ∀ p ∈ f.polygon, 3 ≤ p.vertices.length

variable {R : Type} {f g : Form R}

/-! ## Parts of a form that an edit may change -/

/-- The area and the last query are free, except for the region tags. -/
theorem Sound.of_eq (h : f.Sound) (hmode : g.mode = f.mode) (hresolution : g.resolution = f.resolution)
    (hcells : g.cells = f.cells) (htags : g.regionTags = f.regionTags)
    (hselection : g.selection = f.selection) : g.Sound where
  one_le_resolution := hresolution ▸ h.one_le_resolution
  resolution_le := hresolution ▸ h.resolution_le
  resolution_le_of_function := by rw [hmode, hresolution]; exact h.resolution_le_of_function
  cells_of_function := by rw [hmode, hcells]; exact h.cells_of_function
  selection := hselection ▸ h.selection
  regionTags_ne_empty := htags ▸ h.regionTags_ne_empty
  regionTags_startVisibly := htags ▸ h.regionTags_startVisibly
  regionTags_nodup := htags ▸ h.regionTags_nodup
  polygon_three_le p _ := p.three_le

theorem Sound.withSelection (h : f.Sound) {s : Selection} (hs : s.Sound) :
    Sound { f with selection := s } :=
  { h with selection := hs }

theorem Sound.forgetQuery (h : f.Sound) : f.forgetQuery.Sound := h.of_eq rfl rfl rfl rfl rfl

theorem Sound.afterRejection (h : f.Sound) (e : Edit R) : (f.afterRejection e).Sound := by
  cases e with
  | pasteText text => exact h.of_eq rfl rfl rfl rfl rfl
  | _ => exact h

/-- A resolution brought into the range of a mode. -/
theorem Sound.withResolution (h : f.Sound) (n : Nat) :
    Sound { f with
      resolution := clampNat FormDefaults.minResolution f.mode.maxResolution n } where
  one_le_resolution := le_clampNat f.mode.minResolution_le n
  resolution_le := Nat.le_trans (clampNat_le f.mode.minResolution_le n) f.mode.maxResolution_le
  resolution_le_of_function hmode := by
    have hle := clampNat_le f.mode.minResolution_le n
    rwa [show f.mode = .function from hmode] at hle ⊢
  cells_of_function := h.cells_of_function
  selection := h.selection
  regionTags_ne_empty := h.regionTags_ne_empty
  regionTags_startVisibly := h.regionTags_startVisibly
  regionTags_nodup := h.regionTags_nodup
  polygon_three_le := h.polygon_three_le

theorem Sound.withCells (h : f.Sound) (enabled : Bool) :
    Sound { f with cells := enabled || f.mode.isFunction } :=
  { h with
    cells_of_function := by
      intro hmode
      rw [show f.mode = .function from hmode]
      exact Bool.or_true enabled }

theorem Sound.withTags (h : f.Sound) (p : String → Bool) :
    Sound { f with regionTags := f.regionTags.filter p } :=
  { h with
    regionTags_ne_empty := by
      intro tag htag
      exact h.regionTags_ne_empty tag (List.mem_filter.mp htag).1
    regionTags_startVisibly := by
      intro tag htag
      exact h.regionTags_startVisibly tag (List.mem_filter.mp htag).1
    regionTags_nodup := h.regionTags_nodup.filter p }

/-- A tag is the normal form of a text that is not blank. -/
theorem Sound.addTag (h : f.Sound) (name : String) : (f.addTag name).Sound := by
  simp only [Form.addTag]
  -- Where the text comes from does not matter, only that a blank one adds no tag.
  generalize (if (Text.trim name).isEmpty then f.regionInput else name) = source
  generalize (if (Text.trim name).isEmpty then "" else f.regionInput) = input
  split
  · exact h.of_eq rfl rfl rfl rfl rfl
  · next htag =>
    have hsource : (Text.trim source).isEmpty = false := by simpa using htag
    have hvisible := Resolved.startsVisibly_regionName hsource
    exact { h with
      regionTags_ne_empty := by
        intro tag hmem
        obtain hmem | rfl := Distinct.mem_add.mp hmem
        · exact h.regionTags_ne_empty tag hmem
        · rwa [Ne, ← String.isEmpty_iff]
      regionTags_startVisibly := by
        intro tag hmem
        obtain hmem | rfl := Distinct.mem_add.mp hmem
        · exact h.regionTags_startVisibly tag hmem
        · exact hvisible
      regionTags_nodup := Distinct.nodup_add _ h.regionTags_nodup }

/-- The defaults of a mode are sound, whatever the form held before. -/
theorem sound_resetTo (f : Form R) (mode : Mode) : (f.resetTo mode).Sound where
  one_le_resolution := le_clampNat mode.minResolution_le _
  resolution_le := Nat.le_trans (clampNat_le mode.minResolution_le _) mode.maxResolution_le
  resolution_le_of_function hmode := by
    obtain rfl : mode = .function := hmode
    exact clampNat_le Mode.function.minResolution_le _
  cells_of_function hmode := by
    obtain rfl : mode = .function := hmode
    rfl
  selection := Selection.sound_fresh
  regionTags_ne_empty := by rintro tag ⟨⟩
  regionTags_startVisibly := by rintro tag ⟨⟩
  regionTags_nodup := List.nodup_nil
  polygon_three_le := by rintro p ⟨⟩

theorem sound_new (defaults : FormDefaults) : (Form.new defaults : Form R).Sound :=
  sound_resetTo _ .circle

/-! ## Edits, runs and histories -/

variable [Coordinate R]

/-- Every accepted edit keeps the invariant. -/
theorem Sound.edit (h : f.Sound) {e : Edit R} (he : f.edit e = .ok g) : g.Sound := by
  cases e with
  | setMode mode => cases he; exact sound_resetTo f mode
  | reset => cases he; exact sound_resetTo f f.mode
  | setCenter center => rw [map_finitePoint_eq_ok he]; exact h.of_eq rfl rfl rfl rfl rfl
  | setRadius meters => cases he; exact h.of_eq rfl rfl rfl rfl rfl
  | drawPolygon vertices =>
    simp only [Form.edit] at he
    split at he
    · cases he; exact h.of_eq rfl rfl rfl rfl rfl
    · cases he
  | pasteText text =>
    simp only [Form.edit] at he
    split at he
    · cases he; exact h.of_eq rfl rfl rfl rfl rfl
    · cases he
  | moveVertex index position =>
    obtain ⟨p, q, -, -, rfl⟩ := editPolygon_eq_ok he
    exact h.of_eq rfl rfl rfl rfl rfl
  | insertVertex index position =>
    obtain ⟨p, q, -, -, rfl⟩ := editPolygon_eq_ok he
    exact h.of_eq rfl rfl rfl rfl rfl
  | setRegionColumn column => cases he; exact h.of_eq rfl rfl rfl rfl rfl
  | setRegionInput text => cases he; exact h.of_eq rfl rfl rfl rfl rfl
  | addRegionTag name => cases he; exact h.addTag name
  | removeRegionTag tag => cases he; exact h.withTags _
  | setOrigin origin => rw [map_finitePoint?_eq_ok he]; exact h.of_eq rfl rfl rfl rfl rfl
  | setDestination destination =>
    rw [map_finitePoint?_eq_ok he]
    exact h.of_eq rfl rfl rfl rfl rfl
  | setRouteBuffer meters => cases he; exact h.of_eq rfl rfl rfl rfl rfl
  | addPlaceType type => cases he; exact h.withSelection (h.selection.addPlaceType type)
  | removePlaceType type =>
    cases he
    exact h.withSelection (h.selection.withPlaceTypes (h.selection.placeTypes.filter _))
  | setPrimaryTypeOnly only => cases he; exact h.withSelection { h.selection with }
  | setAttribute name enabled =>
    cases enabled with
    | false =>
      cases he
      exact h.withSelection (h.selection.withAttributes (h.selection.attributes_nodup.filter _))
    | true =>
      simp only [Form.edit] at he
      split at he
      · next s hs => cases he; exact h.withSelection (h.selection.addAttribute hs)
      · cases he
  | setRating range => cases he; exact h.withSelection (h.selection.setRating range)
  | setStatus status => cases he; exact h.withSelection { h.selection with }
  | addBrandName name => cases he; exact h.withSelection (h.selection.addBrandName name)
  | removeBrandName name =>
    cases he
    exact h.withSelection (h.selection.withBrandNames (h.selection.brandNames.filter _))
  | setBrandCategory category =>
    cases he
    exact h.withSelection (h.selection.setBrandCategory category)
  | setHours window => cases he; exact h.withSelection { h.selection with }
  | setCells enabled => cases he; exact h.withCells enabled
  | setResolution resolution => cases he; exact h.withResolution resolution

theorem Sound.apply (h : f.Sound) (e : Edit R) : (f.apply e).1.Sound := by
  obtain ⟨g, hg, happly⟩ | ⟨fault, -, happly⟩ := f.apply_cases e
  · rw [happly]
    exact h.forgetQuery.edit hg
  · rw [happly]
    exact h.forgetQuery.afterRejection e

omit [Coordinate R] in
theorem Sound.formAfter (h : f.Sound) (outcome : Except Fault (Outcome R)) :
    (Run.formAfter f outcome).Sound := by
  obtain hform | ⟨text, hform⟩ := Run.formAfter_cases f outcome
  · rwa [hform]
  · rw [hform]
    exact h.of_eq rfl rfl rfl rfl rfl

end Form

/-- Every form that edits and runs lead to is sound, for any defaults. -/
theorem History.sound {R : Type} [Coordinate R] {ringOf : String → Option (List (Point R))}
    {territory : Territory} {defaults : FormDefaults} {log : List (Happening R)} {f : Form R}
    (h : History ringOf territory defaults log f) : f.Sound := by
  induction h with
  | start => exact Form.sound_new defaults
  | edit h e ih => exact ih.apply e
  | run h services ih => exact ih.formAfter _

/-- The form of a session is sound after any edits, changes of the sign-in and
    runs, accepted or rejected. -/
theorem Session.sound_form_acts {R : Type} [Coordinate R]
    (ringOf : String → Option (List (Point R))) (territory : Territory) (defaults : FormDefaults)
    (signIn : SignIn) (acts : List (Act R)) :
    ((Session.new territory defaults signIn).acts ringOf acts).value.1.form.Sound := by
  have hstart : History ringOf territory defaults [] (Form.new defaults : Form R) := .start
  obtain ⟨log, h⟩ := Session.history_acts (s := Session.new territory defaults signIn) hstart acts
  exact h.sound

end PlaceSearch
