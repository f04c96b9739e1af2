-- SUMMARY: Every layout of a polygon text reads as its ring: the letter case of the keyword and the white space make no difference.
import Mathlib.Data.List.Forall2
import PlaceSearch.Proofs.Geo.Polygon
import PlaceSearch.Proofs.Number.Reading

/-!
# Layouts of polygon texts

A ring can be written in many ways: the keyword in any letter case, white space of any
kind and amount wherever the text can be taken apart, and every number in any spelling
that reads as it. All of them read as the ring. A polygon is made of the text if the
ring has as many pairs as pasting asks for.
-/

namespace PlaceSearch.Wkt

/-! ## Written pairs -/

/-- A pair of numbers as it is written, with the white space around and between them. -/
structure WrittenPair where
  before : List Char
  lng : List Char
  between : List Char
  lat : List Char
  behind : List Char

namespace WrittenPair

def text (w : WrittenPair) : List Char := w.before ++ w.lng ++ w.between ++ w.lat ++ w.behind

/-- The numbers read as those of the point, and the rest is white space. -/
structure Spells (w : WrittenPair) (p : Point Degrees) : Prop where
  before : Text.IsSpace w.before
  lng : Coordinate.readFinite? (String.ofList w.lng) = some p.lng
  between : Text.IsSpace w.between
  between_ne_nil : w.between ≠ []
  lat : Coordinate.readFinite? (String.ofList w.lat) = some p.lat
  behind : Text.IsSpace w.behind

instance (w : WrittenPair) : DecidablePred w.Spells := fun p =>
  decidable_of_iff
    (Text.IsSpace w.before ∧ Coordinate.readFinite? (String.ofList w.lng) = some p.lng ∧
      Text.IsSpace w.between ∧ w.between ≠ [] ∧
      Coordinate.readFinite? (String.ofList w.lat) = some p.lat ∧ Text.IsSpace w.behind)
    ⟨fun ⟨before, lng, between, ne, lat, behind⟩ => ⟨before, lng, between, ne, lat, behind⟩,
      fun ⟨before, lng, between, ne, lat, behind⟩ => ⟨before, lng, between, ne, lat, behind⟩⟩

end WrittenPair

section Number

variable {cs : List Char} {x : Degrees}

theorem exists_readFloat?_of_readFinite?
    (h : Coordinate.readFinite? (String.ofList cs) = some x) :
    ∃ y, readFloat? (String.ofList cs) = some y := by
  obtain ⟨hread, -⟩ := Option.filter_eq_some_iff.mp h
  obtain ⟨y, hy, -⟩ := Option.map_eq_some_iff.mp hread
  exact ⟨y, hy⟩

theorem isNumberLike_of_readFinite? (h : Coordinate.readFinite? (String.ofList cs) = some x) :
    IsNumberLike cs := by
  obtain ⟨y, hy⟩ := exists_readFloat?_of_readFinite? h
  have hchars := isNumberLike_of_readFloat? hy
  rwa [String.toList_ofList] at hchars

theorem ne_nil_of_readFinite? (h : Coordinate.readFinite? (String.ofList cs) = some x) :
    cs ≠ [] := by
  obtain ⟨y, hy⟩ := exists_readFloat?_of_readFinite? h
  rintro rfl
  exact ne_empty_of_readFloat? hy rfl

/-- A number is one word. -/
theorem words_of_readFinite? (h : Coordinate.readFinite? (String.ofList cs) = some x) :
    Text.words cs = [cs] :=
  Text.words_eq_singleton (ne_nil_of_readFinite? h) fun c hc =>
    (isNumberLike_of_readFinite? h c hc).isBlank_eq_false

/-- A number has no parentheses to be stripped of. -/
theorem stripWhile_of_readFinite? (h : Coordinate.readFinite? (String.ofList cs) = some x)
    {paren : Char} (hparen : paren.toNat < 43) :
    Text.stripWhile (· == paren) cs = cs := by
  apply Text.stripWhile_eq_self
  intro c hc
  exact beq_eq_false_iff_ne.mpr ((isNumberLike_of_readFinite? h c hc).ne_of_toNat_lt hparen)

end Number

namespace WrittenPair

variable {w : WrittenPair} {p : Point Degrees}

theorem Spells.words_text (h : w.Spells p) : Text.words w.text = [w.lng, w.lat] := by
  rw [text, Text.words_append_of_isSpace_right h.behind,
    Text.words_append_of_isSpace h.between h.between_ne_nil,
    Text.words_append_of_isSpace_left h.before, words_of_readFinite? h.lng,
    words_of_readFinite? h.lat]
  rfl

theorem Spells.readPair?_text (h : w.Spells p) : readPair? w.text = some p := by
  rw [readPair?, h.words_text]
  dsimp only
  rw [stripWhile_of_readFinite? h.lng (by decide), stripWhile_of_readFinite? h.lat (by decide),
    h.lng, h.lat]
  rfl

/-- A character of a written pair is white space, or may stand in a number. -/
theorem Spells.isBlank_or_mayStandInNumber (h : w.Spells p) {c : Char} (hc : c ∈ w.text) :
    Text.isBlank c = true ∨ MayStandInNumber c := by
  simp only [text, List.mem_append] at hc
  obtain (((hc | hc) | hc) | hc) | hc := hc
  · exact Or.inl (h.before c hc)
  · exact Or.inr (isNumberLike_of_readFinite? h.lng c hc)
  · exact Or.inl (h.between c hc)
  · exact Or.inr (isNumberLike_of_readFinite? h.lat c hc)
  · exact Or.inl (h.behind c hc)

theorem Spells.notMem_text (h : w.Spells p) {c : Char} (hblank : Text.isBlank c = false)
    (hnumber : ¬ MayStandInNumber c) : c ∉ w.text := by
  intro hc
  obtain hspace | hin := h.isBlank_or_mayStandInNumber hc
  · rw [hblank] at hspace
    cases hspace
  · exact hnumber hin

/-- Not all of a written pair is white space, whatever stands behind it. -/
theorem Spells.trimChars_text_append_ne_nil (h : w.Spells p) (more : List Char) :
    Text.trimChars (w.text ++ more) ≠ [] := by
  obtain ⟨c, rest, hlng⟩ := List.exists_cons_of_ne_nil (ne_nil_of_readFinite? h.lng)
  have hvisible : Text.isBlank c = false :=
    (isNumberLike_of_readFinite? h.lng c (hlng ▸ List.mem_cons_self)).isBlank_eq_false
  simp only [text, List.append_assoc]
  rw [Text.trimChars_append_of_isSpace h.before, hlng]
  exact (Text.startsVisibly_cons.mpr hvisible).trimChars_ne_nil

end WrittenPair

/-! ## Written rings -/

section Ring

variable {pairs : List WrittenPair} {ring : List (Point Degrees)}

theorem readPairs_of_spells (h : List.Forall₂ WrittenPair.Spells pairs ring) :
    readPairs (pairs.map WrittenPair.text) = .ok ring := by
  induction h with
  | nil => rfl
  | cons hpair _ ih =>
    rw [List.map_cons, readPairs, hpair.readPair?_text]
    dsimp only
    rw [ih]
    rfl

/-- The pairs between commas. -/
def ringText (pairs : List WrittenPair) : List Char :=
  [','].intercalate (pairs.map WrittenPair.text)

theorem exists_of_forall₂ {α β : Type} {rel : α → β → Prop} {xs : List α} {ys : List β}
    (h : List.Forall₂ rel xs ys) : ∀ x ∈ xs, ∃ y, rel x y :=
  ((List.forall₂_and_left xs ys).mp (h.imp fun _ y hy => ⟨⟨y, hy⟩, hy⟩)).1

theorem notMem_of_mem_pairs (h : List.Forall₂ WrittenPair.Spells pairs ring) {c : Char}
    (hblank : Text.isBlank c = false) (hnumber : ¬ MayStandInNumber c) :
    ∀ part ∈ pairs.map WrittenPair.text, c ∉ part := by
  rw [List.forall_mem_map]
  intro w hw
  obtain ⟨p, hp⟩ := exists_of_forall₂ h w hw
  exact hp.notMem_text hblank hnumber

theorem splitOn_ringText (h : List.Forall₂ WrittenPair.Spells pairs ring) (hne : ring ≠ []) :
    Text.splitOn ',' (ringText pairs) = pairs.map WrittenPair.text := by
  apply Text.splitOn_intercalate
  · rintro hnil
    rw [List.map_eq_nil_iff.mp hnil] at h
    exact hne (List.forall₂_nil_left_iff.mp h)
  · exact notMem_of_mem_pairs h (by decide) (by decide)

theorem paren_notMem_ringText (h : List.Forall₂ WrittenPair.Spells pairs ring) :
    ')' ∉ ringText pairs := by
  intro hparen
  have hother : ∀ part ∈ pairs.map WrittenPair.text, ∀ c ∈ part, c ≠ ')' := by
    rintro part hpart c hc rfl
    exact notMem_of_mem_pairs h (by decide) (by decide) part hpart hc
  exact Sql.forall_mem_intercalate (List.forall_mem_singleton.mpr (by decide)) hother ')' hparen rfl

/-- Not all of a written ring is white space, whatever stands behind it. -/
theorem trimChars_ringText_append_ne_nil (h : List.Forall₂ WrittenPair.Spells pairs ring)
    (hne : ring ≠ []) (more : List Char) : Text.trimChars (ringText pairs ++ more) ≠ [] := by
  cases h with
  | nil => exact absurd rfl hne
  | @cons w p pairs ring hpair _ =>
    obtain ⟨others, hothers⟩ :=
      Text.exists_intercalate_cons [','] w.text (pairs.map WrittenPair.text)
    rw [ringText, List.map_cons, hothers, List.append_assoc]
    exact hpair.trimChars_text_append_ne_nil _

end Ring

/-! ## Written polygons -/

/-- A word of capital letters, in some letter case. -/
def IsWord (word text : List Char) : Prop :=
  List.Forall₂ (fun c letter => c = letter ∨ c = letter.toLower) text word

instance (word : List Char) : DecidablePred (IsWord word) := fun text =>
  inferInstanceAs (Decidable
    (List.Forall₂ (fun c letter => c = letter ∨ c = letter.toLower) text word))

/-- The keyword in some letter case. -/
def IsKeyword (keyword : List Char) : Prop := IsWord "POLYGON".toList keyword

instance : DecidablePred IsKeyword := fun keyword =>
  inferInstanceAs (Decidable (IsWord "POLYGON".toList keyword))

/-- A polygon text in its parts. -/
structure WrittenPolygon where
  keyword : List Char
  gap : List Char
  pairs : List WrittenPair
  tail : List Char

namespace WrittenPolygon

def text (w : WrittenPolygon) : String :=
  String.ofList (w.keyword ++ w.gap ++ "((".toList ++ ringText w.pairs ++ "))".toList ++ w.tail)

/-- The keyword is there in some letter case, the pairs spell those of the ring, and the rest is
    white space. -/
structure Spells (w : WrittenPolygon) (ring : List (Point Degrees)) : Prop where
  keyword : IsKeyword w.keyword
  gap : Text.IsSpace w.gap
  pairs : List.Forall₂ WrittenPair.Spells w.pairs ring
  tail : Text.IsSpace w.tail

end WrittenPolygon

/-- A word is dropped in any letter case. -/
theorem dropWord_append {word keyword : List Char}
    (hword : ∀ letter ∈ word, letter.toUpper = letter ∧ letter.toLower.toUpper = letter)
    (h : IsWord word keyword)
    (rest : List Char) : dropWord word (keyword ++ rest) = some rest := by
  induction h with
  | nil => rfl
  | @cons c letter keyword word hletter _ ih =>
    obtain ⟨hhead, hrest⟩ := List.forall_mem_cons.mp hword
    have hupper : c.toUpper = letter := by
      obtain rfl | rfl := hletter
      · exact hhead.1
      · exact hhead.2
    rw [List.cons_append, dropWord, if_pos hupper, ih hrest]

/-- The keyword, white space and two parentheses open a polygon. -/
theorem afterOpening?_append {keyword gap : List Char}
    (hkeyword : IsKeyword keyword) (hgap : Text.IsSpace gap) (rest : List Char) :
    afterOpening? (keyword ++ (gap ++ '(' :: '(' :: rest)) = some rest := by
  rw [afterOpening?, dropWord_append (by simp) hkeyword, Option.bind_some,
    List.dropWhile_append_of_pos hgap, List.dropWhile_cons_of_neg (by decide)]
  rfl

theorem findOpening?_of_afterOpening? {cs body : List Char} (h : afterOpening? cs = some body) :
    findOpening? cs = some body := by
  cases cs with
  | nil => cases h
  | cons c rest =>
    rw [findOpening?, h]
    rfl

/-- The body of a polygon text, if it is not blank, is all between the parentheses. -/
theorem body?_enclosed {keyword gap body tail : List Char}
    (hkeyword : IsKeyword keyword) (hgap : Text.IsSpace gap) (htail : Text.IsSpace tail)
    (hbody : Text.trimChars body ≠ []) :
    body? (String.ofList (keyword ++ gap ++ "((".toList ++ body ++ "))".toList ++ tail)) =
      some body := by
  have htext : (String.ofList (keyword ++ gap ++ "((".toList ++ body ++ "))".toList ++ tail)).toList =
      keyword ++ (gap ++ '(' :: '(' :: (body ++ ')' :: ')' :: tail)) := by
    simp
  have hopening : findOpening? (keyword ++ (gap ++ '(' :: '(' :: (body ++ ')' :: ')' :: tail))) =
      some (body ++ ')' :: ')' :: tail) :=
    findOpening?_of_afterOpening? (afterOpening?_append hkeyword hgap _)
  rw [body?, htext, hopening, Option.bind_some, beforeLastClosing?_append (htail.notMem (by decide)),
    Option.filter_some, if_pos (by simpa using hbody)]

namespace WrittenPolygon

variable {w : WrittenPolygon} {ring : List (Point Degrees)}

theorem Spells.body?_text (h : w.Spells ring) (hne : ring ≠ []) :
    body? w.text = some (ringText w.pairs) := by
  apply body?_enclosed h.keyword h.gap h.tail
  rw [← List.append_nil (ringText w.pairs)]
  exact trimChars_ringText_append_ne_nil h.pairs hne []

/-- Every layout of a ring reads as the ring, and can be pasted just if the ring has four pairs
    or more. -/
theorem readRing_text (h : w.Spells ring) (hne : ring ≠ []) :
    readRing w.text = .ok ring ∧
      ((∃ q : Polygon Degrees, Polygon.ofText w.text = .ok q) ↔ 4 ≤ ring.length) ∧
      ∀ q : Polygon Degrees, Polygon.ofText w.text = .ok q → q.vertices = ring := by
  have hring : readRing w.text = .ok ring := by
    rw [readRing, h.body?_text hne]
    dsimp only
    rw [firstRing_eq_self (paren_notMem_ringText h.pairs), splitOn_ringText h.pairs hne,
      readPairs_of_spells h.pairs]
  obtain ⟨hlong, hshort⟩ := Polygon.ofText_of_readRing hring
  refine ⟨hring, ⟨?_, ?_⟩, ?_⟩
  · rintro ⟨q, hq⟩
    by_contra hfew
    rw [hshort (Nat.lt_of_not_le hfew)] at hq
    cases hq
  · intro hfour
    obtain ⟨q, hq, -⟩ := hlong hfour
    exact ⟨q, hq⟩
  · intro q hq
    exact Except.ok.inj ((Polygon.readRing_of_ofText hq).symm.trans hring)

/-- A triangle that is written in capitals and small letters, over several lines and with a
    no-break space, and whose last pair is the first in another spelling. -/
theorem readRing_text_triangle :
    let w : WrittenPolygon := {
      keyword := "pOLYgon".toList
      gap := "\n\t".toList
      pairs := [⟨" ".toList, "-1".toList, "   ".toList, "51".toList, []⟩,
        ⟨[], "-1".toList, "\u00a0".toList, "+52.".toList, " ".toList⟩,
        ⟨[], "0".toList, "\t".toList, "5.2e1".toList, "\n".toList⟩,
        ⟨"\n".toList, "-.1E+1".toList, " \t".toList, "0051".toList, "\r\n".toList⟩]
      tail := "\n".toList }
    let ring : List (Point Degrees) :=
      [⟨.ofFloat 51, .ofFloat (-1)⟩, ⟨.ofFloat 52, .ofFloat (-1)⟩, ⟨.ofFloat 52, .ofFloat 0⟩,
        ⟨.ofFloat 51, .ofFloat (-1)⟩]
    w.Spells ring ∧ ring ≠ [] ∧ readRing w.text = .ok ring ∧
      ∃ q : Polygon Degrees, Polygon.ofText w.text = .ok q ∧ q.vertices = ring := by
  intro w ring
  have hspells : w.Spells ring := by
    refine ⟨?_, by decide, ?_, by decide⟩
    · decide
    · decide +kernel
  obtain ⟨hring, hfour, hvertices⟩ := readRing_text hspells (by decide)
  obtain ⟨q, hq⟩ := hfour.mpr (by decide)
  exact ⟨hspells, by decide, hring, q, hq, hvertices q hq⟩

end WrittenPolygon

end PlaceSearch.Wkt
