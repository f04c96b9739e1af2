-- SUMMARY: Which items of a ring read as a point: two numbers, parentheses at their ends, and anything behind white space.
import PlaceSearch.Proofs.Geo.Layout

/-!
# Items of a ring

The reader of a pair asks for less than a written pair. It takes the first two words,
strips the first of opening and the second of closing parentheses, and passes over the
words that follow. So an item reads as a point exactly if its first two words are
numbers with such parentheses at their ends.
-/

namespace PlaceSearch.Wkt

/-! ## Words of numbers and parentheses -/

/-- The word is a number with any amount of one parenthesis at either end. -/
def WrapsNumber (paren : Char) (word : List Char) (x : Degrees) : Prop :=
  ∃ front number back, word = front ++ number ++ back ∧ (∀ c ∈ front, c = paren) ∧
    (∀ c ∈ back, c = paren) ∧ Coordinate.readFinite? (String.ofList number) = some x

section Word

variable {paren : Char} {word : List Char} {x : Degrees}

theorem wrapsNumber_of_readFinite? (h : Coordinate.readFinite? (String.ofList word) = some x) :
    WrapsNumber paren word x :=
  ⟨[], word, [], (List.append_nil word).symm, List.forall_mem_nil _, List.forall_mem_nil _, h⟩

/-- Wrapping a number is what stripping undoes. -/
theorem wrapsNumber_iff (hparen : paren.toNat < 43) :
    WrapsNumber paren word x ↔
      Coordinate.readFinite? (String.ofList (Text.stripWhile (· == paren) word)) = some x := by
  constructor
  · rintro ⟨front, number, back, rfl, hfront, hback, hread⟩
    rw [Text.stripWhile_append (fun c hc => beq_iff_eq.mpr (hfront c hc))
      (fun c hc => beq_iff_eq.mpr (hback c hc)), stripWhile_of_readFinite? hread hparen]
    exact hread
  · intro hread
    obtain ⟨front, back, hword, hfront, hback⟩ := Text.exists_append_stripWhile (· == paren) word
    exact ⟨front, _, back, hword, fun c hc => beq_iff_eq.mp (hfront c hc),
      fun c hc => beq_iff_eq.mp (hback c hc), hread⟩

theorem WrapsNumber.eq_or_mayStandInNumber (h : WrapsNumber paren word x) {c : Char}
    (hc : c ∈ word) : c = paren ∨ MayStandInNumber c := by
  obtain ⟨front, number, back, rfl, hfront, hback, hread⟩ := h
  simp only [List.mem_append] at hc
  obtain (hc | hc) | hc := hc
  · exact Or.inl (hfront c hc)
  · exact Or.inr (isNumberLike_of_readFinite? hread c hc)
  · exact Or.inl (hback c hc)

theorem WrapsNumber.isBlank_eq_false (h : WrapsNumber paren word x)
    (hparen : Text.isBlank paren = false) : ∀ c ∈ word, Text.isBlank c = false := by
  intro c hc
  obtain rfl | hnumber := h.eq_or_mayStandInNumber hc
  · exact hparen
  · exact hnumber.isBlank_eq_false

/-- A word of parentheses alone wraps no number. -/
theorem WrapsNumber.exists_mayStandInNumber (h : WrapsNumber paren word x) :
    ∃ c ∈ word, MayStandInNumber c := by
  obtain ⟨front, number, back, rfl, -, -, hread⟩ := h
  obtain ⟨c, rest, rfl⟩ := List.exists_cons_of_ne_nil (ne_nil_of_readFinite? hread)
  exact ⟨c, by simp, isNumberLike_of_readFinite? hread c List.mem_cons_self⟩

theorem WrapsNumber.ne_nil (h : WrapsNumber paren word x) : word ≠ [] := by
  obtain ⟨c, hc, -⟩ := h.exists_mayStandInNumber
  exact List.ne_nil_of_mem hc

/-- Without the parenthesis the word is the number. -/
theorem WrapsNumber.readFinite?_of_notMem (h : WrapsNumber paren word x) (hword : paren ∉ word) :
    Coordinate.readFinite? (String.ofList word) = some x := by
  obtain ⟨front, number, back, rfl, hfront, hback, hread⟩ := h
  simp only [List.mem_append, not_or] at hword
  have hnone : ∀ cs : List Char, paren ∉ cs → (∀ c ∈ cs, c = paren) → cs = [] := by
    intro cs hcs hall
    exact List.eq_nil_iff_forall_not_mem.mpr fun c hc => hcs (hall c hc ▸ hc)
  rw [hnone front hword.1.1 hfront, hnone back hword.2 hback, List.nil_append, List.append_nil]
  exact hread

/-- A number holds none of the characters below the plus sign. -/
theorem notMem_of_readFinite? (h : Coordinate.readFinite? (String.ofList word) = some x)
    (hparen : paren.toNat < 43) : paren ∉ word :=
  fun hc => (isNumberLike_of_readFinite? h paren hc).ne_of_toNat_lt hparen rfl

end Word

/-! ## Items -/

/-- An item of a ring: two words, the white space before and between them, and the rest. -/
structure Item where
  before : List Char
  first : List Char
  between : List Char
  second : List Char
  rest : List Char

namespace Item

def text (i : Item) : List Char := i.before ++ i.first ++ i.between ++ i.second ++ i.rest

/-- The two words wrap the numbers of the point. The rest is anything that does not continue the
    second word. -/
structure Holds (i : Item) (p : Point Degrees) : Prop where
  before : Text.IsSpace i.before
  first : WrapsNumber '(' i.first p.lng
  between : Text.IsSpace i.between
  between_ne_nil : i.between ≠ []
  second : WrapsNumber ')' i.second p.lat
  rest : ∀ c ∈ i.rest.head?, Text.isBlank c = true

variable {i : Item} {p : Point Degrees}

theorem Holds.words_text (h : i.Holds p) :
    Text.words i.text = i.first :: i.second :: Text.words i.rest := by
  have hfirst := h.first.isBlank_eq_false (by decide)
  have hsecond := h.second.isBlank_eq_false (by decide)
  rw [text, List.append_assoc, Text.words_append_of_isSpace h.between h.between_ne_nil,
    Text.words_append_of_isSpace_left h.before, Text.words_eq_singleton h.first.ne_nil hfirst,
    Text.words_append_of_isBlank h.second.ne_nil hsecond h.rest, List.singleton_append]

end Item

section Read

variable {cs : List Char} {p : Point Degrees}

/-- A pair is read off the first two words. -/
theorem readPair?_eq_some_iff_words :
    readPair? cs = some p ↔
      ∃ first second more, Text.words cs = first :: second :: more ∧
        WrapsNumber '(' first p.lng ∧ WrapsNumber ')' second p.lat := by
  have hopening : '('.toNat < 43 := by decide
  have hclosing : ')'.toNat < 43 := by decide
  constructor
  · intro h
    unfold readPair? at h
    dsimp only at h
    split at h
    · next first second more hwords =>
      obtain ⟨x, hx, h⟩ := Option.bind_eq_some_iff.mp h
      obtain ⟨y, hy, rfl⟩ := Option.map_eq_some_iff.mp h
      exact ⟨first, second, more, hwords, (wrapsNumber_iff hopening).mpr hx,
        (wrapsNumber_iff hclosing).mpr hy⟩
    · cases h
  · rintro ⟨first, second, more, hwords, hfirst, hsecond⟩
    rw [readPair?, hwords]
    dsimp only
    rw [(wrapsNumber_iff hopening).mp hfirst, (wrapsNumber_iff hclosing).mp hsecond]
    rfl

/-- The texts that read as a point are those of the items that hold it. -/
theorem readPair?_eq_some_iff : readPair? cs = some p ↔ ∃ i : Item, i.text = cs ∧ i.Holds p := by
  rw [readPair?_eq_some_iff_words]
  constructor
  · rintro ⟨first, second, more, hwords, hfirst, hsecond⟩
    obtain ⟨before, tail, rfl, hbefore, htail, hmore⟩ := Text.exists_of_words_eq_cons hwords
    obtain ⟨between, rest, rfl, hbetween, hrest, -⟩ := Text.exists_of_words_eq_cons hmore
    refine ⟨⟨before, first, between, second, rest⟩, ?_, hbefore, hfirst, hbetween, ?_, hsecond,
      hrest⟩
    · simp [Item.text]
    · -- the second word does not start with white space, so some stands in front of it
      rintro rfl
      obtain ⟨c, word, rfl⟩ := List.exists_cons_of_ne_nil hsecond.ne_nil
      have hblank := htail c rfl
      rw [hsecond.isBlank_eq_false (by decide) c List.mem_cons_self] at hblank
      cases hblank
  · rintro ⟨i, rfl, h⟩
    exact ⟨i.first, i.second, _, h.words_text, h.first, h.second⟩

/-- A text without characters of numbers is no pair. -/
theorem readPair?_eq_none_of_forall (h : ∀ c ∈ cs, ¬ MayStandInNumber c) :
    (readPair? cs : Option (Point Degrees)) = none := by
  rw [Option.eq_none_iff_forall_ne_some]
  intro p hp
  obtain ⟨i, rfl, hi⟩ := readPair?_eq_some_iff.mp hp
  obtain ⟨c, hc, hnumber⟩ := hi.first.exists_mayStandInNumber
  exact h c (by simp [Item.text, hc]) hnumber

end Read

/-! ## Several items -/

section Ring

variable {part : List Char} {parts : List (List Char)} {ring : List (Point Degrees)}

theorem readPairs_cons_eq_ok_iff :
    readPairs (part :: parts) = .ok ring ↔
      ∃ p points, readPair? part = some p ∧ readPairs parts = .ok points ∧ ring = p :: points := by
  rw [readPairs]
  cases (readPair? part : Option (Point Degrees)) with
  | none =>
    constructor
    · intro h
      cases h
    · rintro ⟨p, points, hp, -⟩
      cases hp
  | some p =>
    cases (readPairs parts : Except GeometryFault (List (Point Degrees))) with
    | error fault =>
      constructor
      · intro h
        cases h
      · rintro ⟨q, points, -, hpoints, -⟩
        cases hpoints
    | ok points =>
      constructor
      · intro h
        exact ⟨p, points, rfl, rfl, (Except.ok.inj h).symm⟩
      · rintro ⟨q, more, hq, hmore, rfl⟩
        cases hq
        cases hmore
        rfl

/-- A ring is read item by item. -/
theorem readPairs_eq_ok_iff :
    readPairs parts = .ok ring ↔
      List.Forall₂ (fun part p => readPair? part = some p) parts ring := by
  induction parts generalizing ring with
  | nil =>
    rw [readPairs, List.forall₂_nil_left_iff]
    exact ⟨fun h => (Except.ok.inj h).symm, fun h => h ▸ rfl⟩
  | cons part parts ih =>
    rw [readPairs_cons_eq_ok_iff, List.forall₂_cons_left_iff]
    simp only [ih]

theorem readPairs_append_eq_ok_iff {more : List (List Char)} :
    readPairs (parts ++ more) = .ok ring ↔
      ∃ front back, readPairs parts = .ok front ∧ readPairs more = .ok back ∧
        ring = front ++ back := by
  induction parts generalizing ring with
  | nil =>
    constructor
    · intro h
      exact ⟨[], ring, rfl, h, rfl⟩
    · rintro ⟨front, back, hfront, hback, rfl⟩
      cases hfront
      exact hback
  | cons part parts ih =>
    rw [List.cons_append, readPairs_cons_eq_ok_iff]
    constructor
    · rintro ⟨p, points, hp, hpoints, rfl⟩
      obtain ⟨front, back, hfront, hback, rfl⟩ := ih.mp hpoints
      exact ⟨p :: front, back, readPairs_cons_eq_ok_iff.mpr ⟨p, front, hp, hfront, rfl⟩, hback, rfl⟩
    · rintro ⟨front, back, hfront, hback, rfl⟩
      obtain ⟨p, points, hp, hpoints, rfl⟩ := readPairs_cons_eq_ok_iff.mp hfront
      exact ⟨p, points ++ back, hp, ih.mpr ⟨points, back, hpoints, hback, rfl⟩, rfl⟩

end Ring

end PlaceSearch.Wkt
