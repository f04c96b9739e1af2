-- SUMMARY: The area of a region search: what it is in every order of the names, and when the order decides about it.
import PlaceSearch.Proofs.Geo.UnionOrder
import PlaceSearch.Proofs.Search.Region

/-!
# Areas of regions

A region search shows the union of the boxes that were found for its names. The
names may be given in any order, as tags or as the typed text; whether the area
is the same then is a question about the boxes alone. What is missing, and which
latitudes are shown, never depends on the order.
-/

namespace PlaceSearch

/-- A reordering of the values found is what is found in some other order. -/
theorem exists_perm_filterMap {α β : Type} {f : α → Option β} {ys : List β} {xs : List α}
    (h : ys.Perm (xs.filterMap f)) : ∃ xs' : List α, xs'.Perm xs ∧ xs'.filterMap f = ys := by
  induction ys generalizing xs with
  | nil => exact ⟨xs, .refl xs, List.nil_perm.mp h⟩
  | cons y ys ih =>
    obtain ⟨x, hx, hfound⟩ := List.mem_filterMap.mp (h.mem_iff.mp List.mem_cons_self)
    obtain ⟨front, back, rfl⟩ := List.append_of_mem hx
    have hfirst : (x :: (front ++ back)).Perm (front ++ x :: back) := List.perm_middle.symm
    have hrest : ys.Perm ((front ++ back).filterMap f) := by
      have hcons := h.trans (hfirst.filterMap f).symm
      rw [List.filterMap_cons_some hfound] at hcons
      exact hcons.cons_inv
    obtain ⟨xs', hperm, hvalues⟩ := ih hrest
    exact ⟨x :: xs', (hperm.cons x).trans hfirst, by rw [List.filterMap_cons_some hfound, hvalues]⟩

/-- Values that a function takes on a list are the values of some of its entries, in order. -/
theorem exists_map_eq {α β : Type} {f : α → β} {xs : List α} {ys : List β}
    (h : ∀ y ∈ ys, ∃ x ∈ xs, f x = y) : ∃ zs : List α, (∀ z ∈ zs, z ∈ xs) ∧ zs.map f = ys := by
  induction ys with
  | nil => exact ⟨[], by simp, rfl⟩
  | cons y ys ih =>
    obtain ⟨x, hx, rfl⟩ := h y List.mem_cons_self
    obtain ⟨zs, hzs, rfl⟩ := ih fun y hy => h y (List.mem_cons_of_mem _ hy)
    exact ⟨x :: zs, by simpa [hx] using hzs, rfl⟩

/-- Collaborators that know the boxes of some addresses and nothing else. -/
def Services.knowing {R : Type} (places : List (String × Box R)) : Services R where
  geocode address := .ok (places.lookup address)
  route _ _ := .error (.authorization "")
  token := .error (.authorization "")
  execute _ _ := .error (.authorization "")

theorem Services.mem_of_geocode_knowing {R : Type} {places : List (String × Box R)}
    {address : String} {b : Box R} (h : (knowing places).geocode address = .ok (some b)) :
    b ∈ places.map Prod.snd := by
  obtain ⟨front, back, rfl, -⟩ := List.lookup_eq_some_iff.mp (Except.ok.inj h)
  simp

namespace Resolved

variable {R : Type} [Coordinate R]

/-! ## Orders of names -/

theorem mem_regionNames_iff_exists_mem {typed : String} {tags : List String} {name : String} :
    name ∈ regionNames typed tags ↔ name ≠ "" ∧ ∃ text ∈ typed :: tags, regionName text = name := by
  simp only [mem_regionNames, List.mem_cons, or_comm, eq_comm]

/-- Texts in another order name the same regions. -/
theorem regionNames_perm {typed typed' : String} {tags tags' : List String}
    (h : (typed' :: tags').Perm (typed :: tags)) :
    (regionNames typed' tags').Perm (regionNames typed tags) := by
  rw [List.perm_ext_iff_of_nodup (nodup_regionNames _ _) (nodup_regionNames _ _)]
  intro name
  simp only [mem_regionNames_iff_exists_mem, h.mem_iff]

theorem regionNames_eq_ofList (typed : String) (tags : List String) :
    regionNames typed tags =
      Distinct.ofList (((tags ++ [typed]).map regionName).filter fun n => !n.isEmpty) := by
  rw [List.map_append, regionNames]
  rfl

/-- Every order of the names is the order of the names of the texts in some order: first
    one text for each name, then the texts that name nothing else. -/
theorem exists_texts {typed : String} {tags names : List String}
    (h : names.Perm (regionNames typed tags)) :
    ∃ typed' tags', (typed' :: tags').Perm (typed :: tags) ∧ regionNames typed' tags' = names := by
  have hmem : ∀ name, name ∈ names ↔ name ≠ "" ∧ ∃ text ∈ typed :: tags, regionName text = name :=
    fun name => h.mem_iff.trans mem_regionNames_iff_exists_mem
  have hnodup : names.Nodup := h.nodup_iff.mpr (nodup_regionNames typed tags)
  obtain ⟨first, hfirst, rfl⟩ := exists_map_eq fun name hname => ((hmem name).mp hname).2
  obtain ⟨more, htexts⟩ := Distinct.exists_perm_append (List.Nodup.of_map regionName hnodup) hfirst
  obtain hnil | ⟨tags', typed', hsplit⟩ := List.eq_nil_or_concat (first ++ more)
  · rw [hnil] at htexts
    cases htexts.length_eq
  · rw [List.concat_eq_append] at hsplit
    have hvisible : (first.map regionName).filter (fun n => !n.isEmpty) = first.map regionName :=
      List.filter_eq_self.mpr fun name hname => by simpa using ((hmem name).mp hname).1
    refine ⟨typed', tags', (List.perm_append_singleton typed' tags').symm.trans (hsplit ▸ htexts), ?_⟩
    rw [regionNames_eq_ofList, ← hsplit, List.map_append, List.filter_append, hvisible]
    apply Distinct.ofList_append_of_subset hnodup
    intro name hname
    obtain ⟨hmore, hvisible⟩ := List.mem_filter.mp hname
    obtain ⟨text, htext, hnamed⟩ := List.mem_map.mp hmore
    have htyped : text ∈ typed :: tags := htexts.mem_iff.mp (List.mem_append_right first htext)
    exact (hmem name).mpr ⟨by simpa using hvisible, text, htyped, hnamed⟩

/-! ## Outcomes -/

/-- The box found for a name. -/
def found? (services : Services R) (territory name : String) : Option (Box R) :=
  (services.geocode (regionAddress territory name)).toOption.join

/-- The boxes found for the names, in order. -/
def foundBoxes (services : Services R) (territory : String) (names : List String) : List (Box R) :=
  names.filterMap (found? services territory)

omit [Coordinate R] in
theorem found?_eq_some_iff {services : Services R} {territory name : String} {b : Box R} :
    found? services territory name = some b ↔
      services.geocode (regionAddress territory name) = .ok (some b) := by
  unfold found?
  cases services.geocode (regionAddress territory name) with
  | error fault => simp [Except.toOption]
  | ok answer => simp [Except.toOption]

omit [Coordinate R] in
theorem mem_foundBoxes {services : Services R} {territory : String} {names : List String}
    {b : Box R} :
    b ∈ foundBoxes services territory names ↔
      ∃ name ∈ names, services.geocode (regionAddress territory name) = .ok (some b) := by
  simp only [foundBoxes, List.mem_filterMap, found?_eq_some_iff]

/-- What a search for the names in a column comes to. -/
def ofNames (services : Services R) (column : RegionColumn) (territory : String)
    (names : List String) : Resolved R :=
  if names = [] then .incomplete .region
  else match unionAll (foundBoxes services territory names) with
    | none => .incomplete .geocodedRegion
    | some bounds => .ready {
        condition := Condition.ofRegions? column names
        center := bounds.center
        preamble := none
        region := some ⟨column, names⟩
        bounds := some bounds }

/-- A search that is ready shows the union of the boxes found and keeps all names. -/
theorem ofNames_eq_ready_iff {services : Services R} {column : RegionColumn} {territory : String}
    {names : List String} {scope : Scope R} :
    ofNames services column territory names = .ready scope ↔
      ∃ bounds, unionAll (foundBoxes services territory names) = some bounds ∧
        scope = {
          condition := Condition.ofRegions? column names
          center := bounds.center
          preamble := none
          region := some ⟨column, names⟩
          bounds := some bounds } := by
  unfold ofNames
  by_cases hnil : names = []
  · simp [hnil, foundBoxes, unionAll]
  · rw [if_neg hnil]
    cases unionAll (foundBoxes services territory names) with
    | none => simp
    | some bounds => simp [eq_comm]

theorem region_value_some (services : Services R) (column : RegionColumn) (typed : String)
    (tags : List String) (territory : String) :
    (region services (some column) typed tags territory).value =
      ofNames services column territory (regionNames typed tags) := by
  unfold region ofNames
  cases hnames : regionNames typed tags with
  | nil => rfl
  | cons name rest =>
    have hfound : (Traced.each (fun n => lookUp services (regionAddress territory n))
        (name :: rest)).value.filterMap id = foundBoxes services territory (name :: rest) := by
      rw [Traced.each_value, List.filterMap_map]
      rfl
    rw [if_neg (List.cons_ne_nil name rest)]
    simp only [Traced.bind_value, hfound]
    cases unionAll (foundBoxes services territory (name :: rest)) with
    | none => rfl
    | some bounds => rfl

/-- The same is missing, or the same area is shown around the same center. -/
def SameArea : Resolved R → Resolved R → Prop
  | .ready scope, .ready scope' => scope.bounds = scope'.bounds ∧ scope.center = scope'.center
  | .incomplete missing, .incomplete missing' => missing = missing'
  | _, _ => False

instance [DecidableEq R] : DecidableRel (SameArea (R := R))
  | .ready _, .ready _ => inferInstanceAs (Decidable (_ ∧ _))
  | .incomplete missing, .incomplete missing' => inferInstanceAs (Decidable (missing = missing'))
  | .ready _, .incomplete _ => isFalse id
  | .incomplete _, .ready _ => isFalse id

variable (services : Services R) (column : RegionColumn) (territory : String)
  {names names' : List String}

omit [Coordinate R] in
theorem foundBoxes_perm (h : names'.Perm names) :
    (foundBoxes services territory names').Perm (foundBoxes services territory names) :=
  h.filterMap _

/-- Names in another order lead to the same area exactly if the boxes found have the same union. -/
theorem sameArea_ofNames_iff (h : names'.Perm names) :
    SameArea (ofNames services column territory names') (ofNames services column territory names) ↔
      unionAll (foundBoxes services territory names') =
        unionAll (foundBoxes services territory names) := by
  unfold ofNames
  by_cases hnil : names = []
  · obtain rfl := hnil
    obtain rfl := List.perm_nil.mp h
    simp [SameArea]
  · have hnil' : names' ≠ [] := fun hnil' => hnil (List.nil_perm.mp (hnil' ▸ h))
    rw [if_neg hnil, if_neg hnil']
    cases unionAll (foundBoxes services territory names') with
    | none =>
      cases unionAll (foundBoxes services territory names) with
      | none => simp [SameArea]
      | some bounds => simp [SameArea]
    | some bounds' =>
      cases unionAll (foundBoxes services territory names) with
      | none => simp [SameArea]
      | some bounds =>
        simp only [SameArea, Option.some.injEq, and_iff_left_iff_imp]
        rintro rfl
        rfl

/-- Whether something is missing depends on which names there are and whether any is found. -/
theorem ofNames_eq_incomplete_iff {missing : Missing} :
    ofNames services column territory names = .incomplete missing ↔
      names = [] ∧ missing = .region ∨
        names ≠ [] ∧ foundBoxes services territory names = [] ∧ missing = .geocodedRegion := by
  unfold ofNames
  by_cases hnil : names = []
  · rw [if_pos hnil]
    simpa [hnil] using eq_comm
  · rw [if_neg hnil]
    cases foundBoxes services territory names with
    | nil => simpa [unionAll, hnil] using eq_comm
    | cons b rest => simp [unionAll, hnil]

theorem ofNames_eq_incomplete_perm (h : names'.Perm names) {missing : Missing} :
    ofNames services column territory names' = .incomplete missing ↔
      ofNames services column territory names = .incomplete missing := by
  have hempty : ∀ {α : Type} {xs ys : List α}, xs.Perm ys → (xs = [] ↔ ys = []) := by
    intro α xs ys hperm
    rw [← List.isEmpty_iff, hperm.isEmpty_eq, List.isEmpty_iff]
  rw [ofNames_eq_incomplete_iff, ofNames_eq_incomplete_iff, Ne, Ne, hempty h,
    hempty (foundBoxes_perm services territory h)]

/-- What the order of its texts decides about a region search. -/
structure AreaByOrder (services : Services ExactDegrees) (column : Option RegionColumn)
    (typed : String) (tags : List String) (territory : String) : Prop where
  /-- In every order the same is missing, or nothing is. -/
  incomplete : ∀ typed' tags', (typed' :: tags').Perm (typed :: tags) → ∀ missing,
    (region services column typed' tags' territory).value = .incomplete missing ↔
      (region services column typed tags territory).value = .incomplete missing
  /-- In every order the area covers all boxes found and has their latitudes. -/
  joins : ∀ typed' tags', (typed' :: tags').Perm (typed :: tags) → ∀ scope,
    (region services column typed' tags' territory).value = .ready scope →
      ∃ bounds, scope.bounds = some bounds ∧ scope.center = bounds.center ∧
        Box.Joins (foundBoxes services territory (regionNames typed tags)) bounds
  /-- It is one area in every order exactly if the boxes found are clustered. -/
  sameArea_iff : column.isSome = true →
    ((∀ typed' tags', (typed' :: tags').Perm (typed :: tags) →
        SameArea (region services column typed' tags' territory).value
          (region services column typed tags territory).value) ↔
      Box.Clustered (foundBoxes services territory (regionNames typed tags)))

variable {services : Services ExactDegrees} {column : RegionColumn} {territory : String}

theorem placed_of_mem_foundBoxes
    (hplaced : ∀ address b, services.geocode address = .ok (some b) → b.Placed)
    (territory : String) (names : List String) :
    ∀ b ∈ foundBoxes services territory names, b.Placed := by
  intro b hb
  obtain ⟨name, -, hfound⟩ := mem_foundBoxes.mp hb
  exact hplaced _ b hfound

/-- A search that is ready shows the union of the boxes found, in the order of the names. -/
theorem joins_of_ofNames_eq_ready
    (hplaced : ∀ address b, services.geocode address = .ok (some b) → b.Placed)
    {names : List String} {scope : Scope ExactDegrees}
    (h : ofNames services column territory names = .ready scope) :
    ∃ bounds, scope.bounds = some bounds ∧ scope.center = bounds.center ∧
      Box.Joins (foundBoxes services territory names) bounds := by
  have hboxes := placed_of_mem_foundBoxes hplaced territory names
  obtain ⟨bounds, hunion, rfl⟩ := ofNames_eq_ready_iff.mp h
  refine ⟨bounds, rfl, rfl, ?_⟩
  cases hfound : foundBoxes services territory names with
  | nil =>
    rw [hfound] at hunion
    cases hunion
  | cons b rest =>
    rw [hfound] at hunion hboxes
    obtain rfl := Option.some.inj hunion
    exact Box.joins_foldl hboxes

/-- The area of a region search covers all boxes found, with their latitudes, whatever the
    order of the names; the longitudes may depend on the order, unless the boxes found are
    clustered. -/
theorem areaByOrder (hplaced : ∀ address b, services.geocode address = .ok (some b) → b.Placed)
    (column : Option RegionColumn) (typed : String) (tags : List String) (territory : String) :
    AreaByOrder services column typed tags territory := by
  cases column with
  | none =>
    refine ⟨fun _ _ _ _ => Iff.rfl, ?_, ?_⟩
    · intro typed' tags' _ scope h
      cases h
    · intro h
      cases h
  | some column =>
    have hboxes := placed_of_mem_foundBoxes hplaced territory (regionNames typed tags)
    refine ⟨?_, ?_, fun _ => ?_⟩
    · intro typed' tags' htexts missing
      rw [region_value_some, region_value_some]
      exact ofNames_eq_incomplete_perm _ _ _ (regionNames_perm htexts)
    · intro typed' tags' htexts scope h
      have hfound := foundBoxes_perm services territory (regionNames_perm htexts)
      rw [region_value_some] at h
      obtain ⟨bounds, hbounds, hcenter, hjoins⟩ := joins_of_ofNames_eq_ready hplaced h
      exact ⟨bounds, hbounds, hcenter, hjoins.perm hfound.symm⟩
    · rw [← Box.unionAll_perm_iff hboxes]
      constructor
      · intro h boxes hperm
        obtain ⟨names, hnames, rfl⟩ := exists_perm_filterMap hperm
        obtain ⟨typed', tags', htexts, rfl⟩ := exists_texts hnames
        have hsame := h typed' tags' htexts
        rw [region_value_some, region_value_some, sameArea_ofNames_iff _ _ _ hnames] at hsame
        exact hsame
      · intro h typed' tags' htexts
        have hnames := regionNames_perm htexts
        rw [region_value_some, region_value_some, sameArea_ofNames_iff _ _ _ hnames]
        exact h _ (foundBoxes_perm services territory hnames)

/-- Two places on either side of the meridian at 180 degrees are one area in every order. -/
theorem areaByOrder_acrossMeridian :
    let suva : Box ExactDegrees := ⟨⟨-21⟩, ⟨177⟩, ⟨-12⟩, ⟨-178⟩⟩
    let apia : Box ExactDegrees := ⟨⟨-14⟩, ⟨-172⟩, ⟨-13⟩, ⟨-171⟩⟩
    let places := Services.knowing [("Suva, Oceania", suva), ("Apia, Oceania", apia)]
    let column : RegionColumn := ⟨⟨"locality_names", by decide⟩, .array⟩
    suva.Placed ∧ apia.Placed ∧ AreaByOrder places (some column) "" ["suva", "apia"] "Oceania" ∧
      SameArea (region places (some column) "" ["apia", "suva"] "Oceania").value
        (region places (some column) "" ["suva", "apia"] "Oceania").value := by
  intro suva apia places column
  have hsuva : suva.Placed := ⟨⟨by norm_num [suva], by norm_num [suva], by norm_num [suva]⟩,
    by norm_num [suva]⟩
  have hapia : apia.Placed := ⟨⟨by norm_num [apia], by norm_num [apia], by norm_num [apia]⟩,
    by norm_num [apia]⟩
  have hplaced : ∀ address b, places.geocode address = .ok (some b) → b.Placed := by
    intro address b h
    obtain rfl | rfl : b = suva ∨ b = apia := by
      simpa using Services.mem_of_geocode_knowing h
    · exact hsuva
    · exact hapia
  have harea := areaByOrder hplaced (some column) "" ["suva", "apia"] "Oceania"
  have hfound : foundBoxes places "Oceania" (regionNames "" ["suva", "apia"]) = [suva, apia] := by
    decide +kernel
  have hclustered : Box.Clustered [suva, apia] := by
    refine Or.inr ⟨0, ?_, ?_⟩
    · simp only [Box.not_mem_lngs]
      decide +kernel
    · decide +kernel
  exact ⟨hsuva, hapia, harea, (harea.sameArea_iff rfl).mpr (hfound ▸ hclustered) "" _ (by decide)⟩

/-- Three places around the globe, looked up in two orders, are two areas. -/
theorem not_forall_sameArea :
    ¬ ∀ (services : Services Degrees) (column : Option RegionColumn) (typed : String)
      (tags tags' : List String) (territory : String), tags'.Perm tags →
        SameArea (region services column typed tags' territory).value
          (region services column typed tags territory).value := by
  intro hall
  let mayotte : Box Degrees := ⟨.ofFloat (-13), .ofFloat 45, .ofFloat (-12.5), .ofFloat 45.5⟩
  let tahiti : Box Degrees := ⟨.ofFloat (-18), .ofFloat (-150), .ofFloat (-17.5), .ofFloat (-149)⟩
  let martinique : Box Degrees := ⟨.ofFloat 14, .ofFloat (-61.5), .ofFloat 15, .ofFloat (-60.5)⟩
  let places := Services.knowing [("Mayotte, France", mayotte), ("Tahiti, France", tahiti),
    ("Martinique, France", martinique)]
  let column : RegionColumn := ⟨⟨"administrative_area_level_1_name", by decide⟩, .string⟩
  have hsame := hall places (some column) "" ["Mayotte", "Tahiti", "Martinique"]
    ["Tahiti", "Martinique", "Mayotte"] "France" (by decide)
  revert hsame
  decide +kernel

end Resolved

end PlaceSearch
