-- SUMMARY: Region names: which names a search asks for, each once, and that a normal form is never blank.
import PlaceSearch.Proofs.Distinct
import PlaceSearch.Proofs.Search.Trace
import PlaceSearch.Proofs.Text.TitleCase
import PlaceSearch.Search.Resolved

/-!
# Region names

A form announces lookups when a tag is set or the typed name is not blank, and
looks up what remains after both are brought into their normal form. The two
agree because the normal form of a text that is not blank is not blank either.
-/

namespace PlaceSearch.Resolved

/-- The normal form of a text that is not blank starts with a visible character. -/
theorem startsVisibly_regionName {text : String} (h : (Text.trim text).isEmpty = false) :
    Text.StartsVisibly (regionName text).toList := by
  apply Text.startsVisibly_titleCase
  rw [Text.trim, String.toList_ofList]
  apply Text.startsVisibly_trimChars
  intro hnil
  rw [Text.trim, hnil] at h
  cases h

/-- Only blank texts have an empty normal form. -/
@[simp] theorem isEmpty_regionName (text : String) :
    (regionName text).isEmpty = (Text.trim text).isEmpty := by
  cases h : (Text.trim text).isEmpty with
  | true =>
    rw [regionName, String.isEmpty_iff.mp h]
    decide
  | false =>
    rw [← Bool.not_eq_true, String.isEmpty_iff]
    intro hnil
    exact (startsVisibly_regionName h).ne_nil (by rw [hnil]; rfl)

/-- A normal form is its own exactly if the text begins its words plainly. -/
theorem regionName_regionName_iff {text : String} :
    regionName (regionName text) = regionName text ↔
      Text.PlainInitials (Text.trim text).toList := by
  rw [regionName, regionName, Text.trim_titleCase_trim]
  exact Text.titleCase_titleCase_iff

theorem isEmpty_regionName_regionName (text : String) :
    (regionName (regionName text)).isEmpty = (regionName text).isEmpty := by
  rw [isEmpty_regionName, regionName, Text.trim_titleCase_trim]

/-! ## The names of a search -/

theorem mem_regionNames {typed : String} {tags : List String} {name : String} :
    name ∈ regionNames typed tags ↔
      name ≠ "" ∧ ∃ text, (text ∈ tags ∨ text = typed) ∧ name = regionName text := by
  simp only [regionNames, Distinct.mem_ofList, List.mem_filter, List.mem_append, List.mem_map,
    List.mem_singleton, Bool.not_eq_true', ← Bool.not_eq_true, String.isEmpty_iff]
  constructor
  · intro h
    obtain ⟨⟨tag, htag, rfl⟩ | rfl, hname⟩ := h
    · exact ⟨hname, tag, Or.inl htag, rfl⟩
    · exact ⟨hname, typed, Or.inr rfl, rfl⟩
  · intro h
    obtain ⟨hname, text, htext | rfl, rfl⟩ := h
    · exact ⟨Or.inl ⟨text, htext, rfl⟩, hname⟩
    · exact ⟨Or.inr rfl, hname⟩

theorem nodup_regionNames (typed : String) (tags : List String) :
    (regionNames typed tags).Nodup := Distinct.nodup_ofList _

/-- There is no name to ask for when every text has an empty normal form. -/
theorem regionNames_eq_nil_iff {typed : String} {tags : List String} :
    regionNames typed tags = [] ↔
      ∀ text, text ∈ tags ∨ text = typed → (Text.trim text).isEmpty = true := by
  simp only [List.eq_nil_iff_forall_not_mem, mem_regionNames, ← isEmpty_regionName,
    String.isEmpty_iff]
  constructor
  · intro h text htext
    apply Classical.byContradiction
    intro hname
    exact h (regionName text) ⟨hname, text, htext, rfl⟩
  · rintro h name ⟨hname, text, htext, rfl⟩
    exact hname (h text htext)

/-- When every tag starts visibly, there is a name to ask for as soon as a tag
    is set or something is typed. -/
theorem regionNames_eq_nil_iff_of_startsVisibly {typed : String} {tags : List String}
    (htags : ∀ tag ∈ tags, Text.StartsVisibly tag.toList) :
    regionNames typed tags = [] ↔ (Text.trim typed).isEmpty = true ∧ tags = [] := by
  rw [regionNames_eq_nil_iff]
  constructor
  · intro h
    refine ⟨h typed (Or.inr rfl), List.eq_nil_iff_forall_not_mem.mpr ?_⟩
    intro tag htag
    have hblank := h tag (Or.inl htag)
    rw [Text.isEmpty_trim_of_startsVisibly (htags tag htag)] at hblank
    cases hblank
  · rintro ⟨htyped, rfl⟩ text (htext | rfl)
    · cases htext
    · exact htyped

/-- The typed name comes last, unless it is blank or the name of a tag. -/
theorem regionNames_eq (typed : String) (tags : List String) :
    regionNames typed tags =
      if (regionName typed).isEmpty then regionNames "" tags
      else Distinct.add (regionNames "" tags) (regionName typed) := by
  have hblank : (regionName "").isEmpty = true := isEmpty_regionName ""
  have hkept : ∀ name : String,
      [name].filter (fun n => !n.isEmpty) = if name.isEmpty then [] else [name] := by
    intro name
    cases h : name.isEmpty <;> simp [h]
  rw [regionNames, regionNames, List.filter_append, List.filter_append, hkept, hkept, if_pos hblank,
    List.append_nil]
  split
  · rw [List.append_nil]
  · exact Distinct.ofList_concat _ _

/-- A name as one more tag is as good as the same name typed. -/
theorem regionNames_add (tags : List String) (tag : String) :
    regionNames "" (Distinct.add tags tag) = regionNames tag tags := by
  by_cases htag : tag ∈ tags
  · rw [Distinct.add_of_mem htag]
    cases hempty : (regionName tag).isEmpty with
    | true => rw [regionNames_eq tag, if_pos hempty]
    | false =>
      have hmem : regionName tag ∈ regionNames "" tags := by
        rw [mem_regionNames]
        refine ⟨?_, tag, Or.inl htag, rfl⟩
        rw [Ne, ← String.isEmpty_iff, hempty]
        exact Bool.false_ne_true
      rw [regionNames_eq tag, hempty, if_neg Bool.false_ne_true, Distinct.add_of_mem hmem]
  · have hblank : (regionName "").isEmpty = true := isEmpty_regionName ""
    rw [Distinct.add, if_neg htag, regionNames, regionNames, List.map_append, List.filter_append]
    simp [hblank]

/-- The normal form of a typed name is searched for as the name itself exactly if it is
    its own normal form, or if tags have both of the names already. -/
theorem regionNames_regionName_iff {typed : String} {tags : List String} :
    regionNames (regionName typed) tags = regionNames typed tags ↔
      regionName (regionName typed) = regionName typed ∨
        regionName (regionName typed) ∈ regionNames "" tags ∧
          regionName typed ∈ regionNames "" tags := by
  have hsame := isEmpty_regionName_regionName typed
  rw [regionNames_eq (regionName typed), regionNames_eq typed, hsame]
  generalize regionName (regionName typed) = again at hsame
  generalize regionName typed = name at hsame
  cases hempty : name.isEmpty with
  | true =>
    rw [hempty, String.isEmpty_iff] at hsame
    rw [String.isEmpty_iff] at hempty
    rw [if_pos rfl, if_pos rfl, hsame, hempty]
    exact iff_of_true rfl (Or.inl rfl)
  | false =>
    rw [if_neg Bool.false_ne_true, if_neg Bool.false_ne_true]
    exact Distinct.add_eq_add_iff

theorem regionAddress_injective (territory : String) {name other : String}
    (h : regionAddress territory name = regionAddress territory other) : name = other := by
  have hname : toString name = toString other := by
    simpa [regionAddress, ← String.toList_inj] using h
  exact hname

/-- Every name is looked up once, in order, whether an earlier one was found or not. -/
theorem region_events {R : Type} [Coordinate R] (services : Services R) (column : RegionColumn)
    (typed : String) (tags : List String) (territory : String) :
    (region services (some column) typed tags territory).events =
      (regionNames typed tags).map fun name => .geocode (regionAddress territory name) := by
  unfold region
  cases hnames : regionNames typed tags with
  | nil => rfl
  | cons name rest =>
    simp only [Traced.bind_events, Traced.each_events, lookUp, Traced.call_events,
      ← List.map_eq_flatMap]
    split
    · exact List.append_nil _
    · exact List.append_nil _

end PlaceSearch.Resolved
