-- SUMMARY: What holds of every selection that is built by adding and removing entries.
import PlaceSearch.Filter.Selection
import PlaceSearch.Proofs.Text.Blank

/-!
# Sound selections

A selection that starts fresh and changes only through its own operations holds
entries that are trimmed, not empty and not repeated, attributes that are plain
names, and bounds that are finite numbers.
-/

namespace PlaceSearch

/-- Entries as a user may have typed them: trimmed, none empty, none twice. -/
structure Selection.TypedEntries (xs : List String) : Prop where
  trim_eq : ∀ x ∈ xs, Text.trim x = x
  ne_empty : ∀ x ∈ xs, x ≠ ""
  nodup : xs.Nodup

namespace Selection.TypedEntries

theorem nil : TypedEntries [] where
  trim_eq := by simp
  ne_empty := by simp
  nodup := List.nodup_nil

theorem addText {xs : List String} (h : TypedEntries xs) (text : String) :
    TypedEntries (Selection.addText xs text) := by
  simp only [Selection.addText]
  split
  · exact h
  · next hne =>
    constructor
    · intro x hx
      obtain hx | hx := Distinct.mem_add.mp hx
      · exact h.trim_eq x hx
      · rw [hx, Text.trim_trim]
    · intro x hx
      obtain hx | hx := Distinct.mem_add.mp hx
      · exact h.ne_empty x hx
      · rwa [hx, Ne, ← String.isEmpty_iff]
    · exact Distinct.nodup_add _ h.nodup

theorem filter {xs : List String} (h : TypedEntries xs) (p : String → Bool) :
    TypedEntries (xs.filter p) where
  trim_eq := by
    intro x hx
    exact h.trim_eq x (List.mem_filter.mp hx).1
  ne_empty := by
    intro x hx
    exact h.ne_empty x (List.mem_filter.mp hx).1
  nodup := h.nodup.filter p

end Selection.TypedEntries

/-- The two bounds are absent or finite numbers. -/
def RatingRange.IsFinite (r : RatingRange) : Prop :=
  (∀ b ∈ r.min, b.isFinite = true) ∧ (∀ b ∈ r.max, b.isFinite = true)

theorem RatingRange.isFinite_finite (r : RatingRange) : r.finite.IsFinite := by
  constructor
  · intro b hb
    exact (Option.mem_filter_iff.mp hb).2
  · intro b hb
    exact (Option.mem_filter_iff.mp hb).2

/-- A letter or underscore, then letters, digits and underscores, all ASCII. -/
def Sql.IsPlain (name : String) : Prop :=
  ∃ c rest, name.toList = c :: rest ∧ (c.isAlpha = true ∨ c = '_') ∧
    ∀ d ∈ rest, d.isAlphanum = true ∨ d = '_'

theorem Sql.Identifier.isPlain_name (i : Sql.Identifier) : Sql.IsPlain i.name := by
  have hname := i.isName
  cases hlist : i.name.toList with
  | nil => rw [hlist] at hname; cases hname
  | cons c rest =>
    rw [hlist] at hname
    simp only [Sql.isName, Sql.isNameStart, Sql.isNamePart, Bool.and_eq_true, Bool.or_eq_true,
      beq_iff_eq, List.all_eq_true] at hname
    exact ⟨c, rest, hlist, hname.1, hname.2⟩

/-- What holds of every selection of a form. -/
structure Selection.Sound (s : Selection) : Prop where
  placeTypes : TypedEntries s.placeTypes
  brandNames : TypedEntries s.brandNames
  attributes_nodup : s.attributes.Nodup
  attributes_isPlain : ∀ i ∈ s.attributes, Sql.IsPlain i.name
  brandCategory_ne : s.brandCategory ≠ some ""
  rating : s.rating.IsFinite

namespace Selection

theorem sound_fresh : fresh.Sound where
  placeTypes := .nil
  brandNames := .nil
  attributes_nodup := List.nodup_nil
  attributes_isPlain := by simp [fresh, unrestricted]
  brandCategory_ne := by decide
  rating := ⟨by rintro b ⟨⟩, by rintro b ⟨⟩⟩

namespace Sound

variable {s : Selection}

theorem withPlaceTypes (h : s.Sound) {xs : List String} (hxs : TypedEntries xs) :
    Sound { s with placeTypes := xs } :=
  { h with placeTypes := hxs }

theorem withBrandNames (h : s.Sound) {xs : List String} (hxs : TypedEntries xs) :
    Sound { s with brandNames := xs } :=
  { h with brandNames := hxs }

theorem withAttributes (h : s.Sound) {xs : List Sql.Identifier} (hxs : xs.Nodup) :
    Sound { s with attributes := xs } :=
  { h with
    attributes_nodup := hxs
    attributes_isPlain := fun i _ => i.isPlain_name }

theorem addPlaceType (h : s.Sound) (text : String) : (s.addPlaceType text).Sound := by
  rw [Selection.addPlaceType]
  exact h.withPlaceTypes (h.placeTypes.addText text)

theorem addBrandName (h : s.Sound) (text : String) : (s.addBrandName text).Sound := by
  rw [Selection.addBrandName]
  exact h.withBrandNames (h.brandNames.addText text)

theorem addAttribute (h : s.Sound) {name : String} {t : Selection}
    (ht : s.addAttribute name = .ok t) : t.Sound := by
  unfold Selection.addAttribute at ht
  split at ht
  · next i hi =>
    cases ht
    exact h.withAttributes (Distinct.nodup_add i h.attributes_nodup)
  · cases ht

theorem setRating (h : s.Sound) (range : RatingRange) :
    Sound { s with rating := range.finite } :=
  { h with rating := range.isFinite_finite }

theorem setBrandCategory (h : s.Sound) (category : Option String) :
    Sound { s with brandCategory := category.filter fun c => !c.isEmpty } := by
  have hne : category.filter (fun c => !c.isEmpty) ≠ some "" := by
    intro hempty
    have hkept := (Option.filter_eq_some_iff.mp hempty).2
    revert hkept
    decide
  exact { h with brandCategory_ne := hne }

end Sound

end Selection

end PlaceSearch
