-- SUMMARY: Changing the case of a text keeps its first character visible.
import PlaceSearch.Proofs.Text.Blank
import PlaceSearch.Text.LetterCase

/-!
# Letter case and white space

No entry of the case tables has an image that is empty or starts with white
space. So the title case of a text that starts visibly starts visibly as well,
and is never blank.
-/

namespace PlaceSearch.Text

open CaseData

/-! ## The tables -/

/-- No image under the tables is empty or starts with white space. -/
structure VisibleImages (special : List (Nat × List Nat)) (runs : List Run) : Prop where
  special : ∀ entry ∈ special, StartsVisibly (entry.2.map Char.ofNat)
  runs : ∀ r ∈ runs, ∀ i < r.last + 1 - r.first,
    isBlank (Char.ofNat (↑(r.first + i) + r.shift).toNat) = false

theorem visibleImages_lower : VisibleImages lowerSpecial lowerRuns where
  special := by decide
  runs := by decide +kernel

theorem visibleImages_upper : VisibleImages upperSpecial upperRuns where
  special := by decide
  runs := by decide +kernel

theorem VisibleImages.isBlank_image {special : List (Nat × List Nat)} {runs : List Run}
    (h : VisibleImages special runs) {r : Run} (hr : r ∈ runs) {c n : Nat}
    (hn : r.image? c = some n) : isBlank (Char.ofNat n) = false := by
  simp only [Run.image?, Option.ite_none_right_eq_some, Option.some.injEq] at hn
  obtain ⟨⟨hfirst, hlast, -⟩, rfl⟩ := hn
  have himage := h.runs r hr (c - r.first) (by omega)
  rwa [Nat.add_sub_cancel' hfirst] at himage

/-- A character is mapped by an entry, by a run, or not at all. -/
theorem mapCase_cases (special : List (Nat × List Nat)) (runs : List Run) (c : Char) :
    (∃ entry ∈ special, mapCase special runs c = entry.2.map Char.ofNat) ∨
      (∃ r ∈ runs, ∃ n, r.image? c.toNat = some n ∧ mapCase special runs c = [Char.ofNat n]) ∨
      mapCase special runs c = [c] := by
  unfold mapCase
  split
  · next first image hentry => exact Or.inl ⟨_, List.mem_of_find?_eq_some hentry, rfl⟩
  · split
    · next n hn =>
      obtain ⟨r, hr, himage⟩ := List.exists_of_findSome?_eq_some hn
      exact Or.inr (Or.inl ⟨r, hr, n, himage, rfl⟩)
    · exact Or.inr (Or.inr rfl)

theorem startsVisibly_mapCase {special : List (Nat × List Nat)} {runs : List Run}
    (h : VisibleImages special runs) {c : Char} (hc : isBlank c = false) :
    StartsVisibly (mapCase special runs c) := by
  obtain ⟨entry, hentry, heq⟩ | ⟨r, hr, n, hn, heq⟩ | heq := mapCase_cases special runs c
  · exact heq ▸ h.special entry hentry
  · exact heq ▸ startsVisibly_cons.mpr (h.isBlank_image hr hn)
  · exact heq ▸ startsVisibly_cons.mpr hc

/-! ## Texts -/

theorem startsVisibly_lower {cs : List Char} (h : StartsVisibly cs) : StartsVisibly (lower cs) := by
  cases cs with
  | nil => exact absurd h not_startsVisibly_nil
  | cons c rest =>
    have hc : isBlank c = false := startsVisibly_cons.mp h
    rw [lower, lowerFrom]
    apply StartsVisibly.append
    split
    -- A capital sigma becomes one of two letters, depending on its surroundings.
    · split <;> decide
    · exact startsVisibly_mapCase visibleImages_lower hc

theorem startsVisibly_capitalize {cs : List Char} (h : StartsVisibly cs) :
    StartsVisibly (capitalize cs) := by
  cases cs with
  | nil => exact absurd h not_startsVisibly_nil
  | cons c rest =>
    have hc : isBlank c = false := startsVisibly_cons.mp h
    exact (startsVisibly_mapCase visibleImages_upper hc).append rest

/-- The first part between spaces starts as the text does. -/
theorem startsVisibly_splitOn {cs : List Char} (h : StartsVisibly cs) :
    ∃ part parts, splitOn ' ' cs = part :: parts ∧ StartsVisibly part := by
  cases cs with
  | nil => exact absurd h not_startsVisibly_nil
  | cons c rest =>
    have hc : isBlank c = false := startsVisibly_cons.mp h
    have hspace : (c == ' ') = false := by
      rw [beq_eq_false_iff_ne]
      rintro rfl
      revert hc
      decide
    simp only [splitOn, splitBy, hspace, Bool.false_eq_true, if_false]
    split
    · exact ⟨_, _, rfl, startsVisibly_cons.mpr hc⟩
    · exact ⟨_, _, rfl, startsVisibly_cons.mpr hc⟩

theorem StartsVisibly.intercalate {part : List Char} (h : StartsVisibly part) (sep : List Char)
    (parts : List (List Char)) : StartsVisibly (sep.intercalate (part :: parts)) := by
  cases parts with
  | nil => rwa [List.intercalate_singleton]
  | cons next parts =>
    rw [List.intercalate_cons_cons]
    exact (h.append sep).append _

theorem startsVisibly_titleCase {s : String} (h : StartsVisibly s.toList) :
    StartsVisibly (titleCase s).toList := by
  obtain ⟨part, parts, hparts, hpart⟩ := startsVisibly_splitOn (startsVisibly_lower h)
  rw [titleCase, hparts, String.toList_ofList, List.map_cons]
  exact (startsVisibly_capitalize hpart).intercalate [' '] _

end PlaceSearch.Text
