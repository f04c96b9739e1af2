-- SUMMARY: Making the typed region name a tag: the search it leads to, and when that is the same search.
import PlaceSearch.Proofs.Session.Protocol

/-!
# Typed names and tags

A typed name is brought into its normal form when the area is resolved. A name that
is made a tag is brought into it at once, and again when the area is resolved. So
the tag is searched for as if its text had been typed, and that is the same search
as long as the normal form of the name is its own normal form.
-/

namespace PlaceSearch

variable {R : Type} [Coordinate R]

/-- A region search depends on the typed text and the tags through their names only. -/
theorem Resolved.region_congr (services : Services R) (column : Option RegionColumn)
    {typed typed' : String} {tags tags' : List String}
    (h : regionNames typed tags = regionNames typed' tags') (territory : String) :
    region services column typed tags territory = region services column typed' tags' territory := by
  unfold region
  rw [h]

/-- A form in region mode is resolved by its region search. -/
theorem Run.resolve_value_of_region {f : Form R} (h : f.mode = .region) (services : Services R)
    (territory : Territory) :
    (resolve services territory f).value =
      .ok (Resolved.region services f.regionColumn f.regionInput f.regionTags
        territory.label).value := by
  simp only [resolve, h]
  split
  · rfl
  · rfl

namespace Form

variable {f g : Form R}

/-- The form after its typed region name has been made a tag. -/
def tagged (f : Form R) : Form R := (f.apply (.addRegionTag "")).1

/-- A blank name stands for the typed one. -/
theorem tagged_eq (f : Form R) :
    f.tagged =
      { f.forgetQuery with
        regionInput := ""
        regionTags :=
          if (Resolved.regionName f.regionInput).isEmpty then f.regionTags
          else Distinct.add f.regionTags (Resolved.regionName f.regionInput) } := by
  have hblank : (Text.trim "").isEmpty = true := by decide
  have htagged : f.tagged = f.forgetQuery.addTag "" := rfl
  rw [htagged, addTag]
  simp only [hblank, if_true]
  rfl

theorem tagged_mode (f : Form R) : f.tagged.mode = f.mode := rfl
theorem tagged_regionColumn (f : Form R) : f.tagged.regionColumn = f.regionColumn := rfl

/-- The tag is searched for as the normal form of the typed name would be. -/
theorem regionNames_tagged (f : Form R) :
    Resolved.regionNames f.tagged.regionInput f.tagged.regionTags =
      Resolved.regionNames (Resolved.regionName f.regionInput) f.regionTags := by
  simp only [tagged_eq]
  generalize Resolved.regionName f.regionInput = tag
  split
  · next hempty => rw [String.isEmpty_iff.mp hempty]
  · exact Resolved.regionNames_add f.regionTags tag

/-- Forms in region mode that search one column for the same names are resolved alike. -/
theorem resolve_congr_of_region (hf : f.mode = .region) (hg : g.mode = .region)
    (hcolumn : f.regionColumn = g.regionColumn) (hsaid : f.announcement = g.announcement)
    (hnames : Resolved.regionNames f.regionInput f.regionTags =
      Resolved.regionNames g.regionInput g.regionTags)
    (services : Services R) (territory : Territory) :
    Run.resolve services territory f = Run.resolve services territory g := by
  have hlookups : f.lookups territory = g.lookups territory := by
    simp only [lookups, hf, hg, hcolumn, hnames]
  apply Traced.eq_of_events_of_value
  · rw [Run.resolve_events, Run.resolve_events, hsaid, hlookups]
  · rw [Run.resolve_value_of_region hf, Run.resolve_value_of_region hg, hcolumn,
      Resolved.region_congr services g.regionColumn hnames]

/-- Forms in region mode that are resolved alike search for the same names. -/
theorem regionNames_eq_of_resolve_eq (hf : f.mode = .region) (hg : g.mode = .region)
    (hfcolumn : f.regionColumn.isSome = true) (hgcolumn : g.regionColumn.isSome = true)
    {services : Services R} {territory : Territory}
    (h : Run.resolve services territory f = Run.resolve services territory g) :
    Resolved.regionNames f.regionInput f.regionTags =
      Resolved.regionNames g.regionInput g.regionTags := by
  have hlookups : f.lookups territory = g.lookups territory := by
    rw [← Run.calls_resolve services, h, Run.calls_resolve]
  simp only [lookups, hf, hg, hfcolumn, hgcolumn, if_true] at hlookups
  refine List.map_inj_right ?_ |>.mp hlookups
  intro name other heq
  exact Resolved.regionAddress_injective _ (Event.geocode.inj heq)

/-- Lookups are announced for a text that is not blank as for the tag that it makes. -/
theorem announcement_tagged (f : Form R) : f.tagged.announcement = f.announcement := by
  have hblank : (Text.trim "").isEmpty = true := by decide
  have htags : ((Text.trim f.tagged.regionInput).isEmpty && f.tagged.regionTags.isEmpty) =
      ((Text.trim f.regionInput).isEmpty && f.regionTags.isEmpty) := by
    rw [tagged_eq, ← Resolved.isEmpty_regionName f.regionInput]
    cases hempty : (Resolved.regionName f.regionInput).isEmpty with
    | true => simp [hblank]
    | false => simp [Distinct.add_ne_nil]
  have hends : f.tagged.ends = f.ends := rfl
  rw [announcement, announcement, tagged_mode, tagged_regionColumn, htags, hends]

omit [Coordinate R] in
theorem announcement_regionName (f : Form R) :
    ({ f with regionInput := Resolved.regionName f.regionInput } : Form R).announcement =
      f.announcement := by
  have hblank : (Text.trim (Resolved.regionName f.regionInput)).isEmpty =
      (Text.trim f.regionInput).isEmpty := by
    rw [← Resolved.isEmpty_regionName, Resolved.isEmpty_regionName_regionName,
      Resolved.isEmpty_regionName]
  simp only [announcement, hblank]

/-- Making the typed name a tag leads to the search for its normal form as a typed
    text. That is the search for the name as it was typed exactly if every word of it
    begins with a plain letter, or if tags have the names of both. -/
theorem resolve_tagged {f : Form R} {column : RegionColumn} (hmode : f.mode = .region)
    (hcolumn : f.regionColumn = some column) (services : Services R) (territory : Territory) :
    Run.resolve services territory f.tagged =
        Run.resolve services territory
          { f with regionInput := Resolved.regionName f.regionInput } ∧
      (Run.resolve services territory f.tagged = Run.resolve services territory f ↔
        Text.PlainInitials (Text.trim f.regionInput).toList ∨
          Resolved.regionName (Resolved.regionName f.regionInput) ∈
              Resolved.regionNames "" f.regionTags ∧
            Resolved.regionName f.regionInput ∈ Resolved.regionNames "" f.regionTags) := by
  have htagged : f.tagged.mode = .region := by rw [tagged_mode, hmode]
  constructor
  · have hsaid := f.announcement_tagged.trans f.announcement_regionName.symm
    exact resolve_congr_of_region (g := { f with regionInput := Resolved.regionName f.regionInput })
      htagged hmode rfl hsaid f.regionNames_tagged services territory
  · rw [← Resolved.regionName_regionName_iff, ← Resolved.regionNames_regionName_iff,
      ← regionNames_tagged]
    constructor
    · intro h
      have hsome : f.regionColumn.isSome = true := by rw [hcolumn]; rfl
      exact regionNames_eq_of_resolve_eq htagged hmode hsome hsome h
    · intro h
      exact resolve_congr_of_region htagged hmode rfl f.announcement_tagged h services territory

end Form

/-- A name of two words is found alike whether it is typed or a tag. -/
theorem resolve_tagged_newYork :
    let berlin : Territory := ⟨.sample, "Berlin, Germany", "de"⟩
    let answers := Services.withoutRows (Box.ofPoint (⟨.ofFloat 52.5, .ofFloat 13.4⟩ : Point Degrees))
    ∃ (log : List (Happening Degrees)) (f : Form Degrees),
      History (fun _ => none) berlin .standard log f ∧ f.regionInput = " new york " ∧
        Run.resolve answers berlin f.tagged = Run.resolve answers berlin f := by
  intro berlin answers
  let column : RegionColumn := ⟨⟨"locality_names", by decide⟩, .array⟩
  have hstart : History (fun _ => none) berlin .standard [] (Form.new (R := Degrees) .standard) :=
    .start
  have htyped := ((hstart.edit (.setMode .region)).edit (.setRegionColumn (some column))).edit
    (.setRegionInput " new york ")
  obtain ⟨log, f, h, hmode, hcolumn, hinput⟩ : ∃ log f,
      History (fun _ => none) berlin .standard log f ∧ f.mode = .region ∧
        f.regionColumn = some column ∧ f.regionInput = " new york " :=
    ⟨_, _, htyped, rfl, rfl, rfl⟩
  obtain ⟨-, hiff⟩ := Form.resolve_tagged hmode hcolumn answers berlin
  have hplain : Text.PlainInitials (Text.trim f.regionInput).toList := by
    rw [hinput]
    decide +kernel
  exact ⟨log, f, h, hinput, hiff.mpr (Or.inl hplain)⟩

/-- Not every typed name can be made a tag without changing the search: `ß` is
    searched for as `SS`, and the tag `SS` that it makes as `Ss`. -/
theorem not_forall_resolve_tagged :
    let berlin : Territory := ⟨.sample, "Berlin, Germany", "de"⟩
    ¬ ∀ (log : List (Happening Degrees)) (f : Form Degrees),
      History (fun _ => none) berlin .standard log f → f.mode = .region →
        f.regionColumn.isSome = true → ∀ services : Services Degrees,
          Run.resolve services berlin f.tagged = Run.resolve services berlin f := by
  intro berlin hall
  let answers := Services.withoutRows (Box.ofPoint (⟨.ofFloat 52.5, .ofFloat 13.4⟩ : Point Degrees))
  let column : RegionColumn := ⟨⟨"locality_names", by decide⟩, .array⟩
  have hstart : History (fun _ => none) berlin .standard [] (Form.new (R := Degrees) .standard) :=
    .start
  have h := ((hstart.edit (.setMode .region)).edit (.setRegionColumn (some column))).edit
    (.setRegionInput "ß")
  have hnames := Form.regionNames_eq_of_resolve_eq rfl rfl rfl rfl (hall _ _ h rfl rfl answers)
  revert hnames
  decide +kernel

end PlaceSearch
