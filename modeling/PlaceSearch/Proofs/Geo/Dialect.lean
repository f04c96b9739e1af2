-- SUMMARY: Which texts read as a ring at all, and which of these are polygons of the dialect.
import PlaceSearch.Proofs.Geo.Holes

/-!
# Texts that read as a ring

The dialect is a polygon with any number of holes, written in one of its layouts. The
reader accepts more. It looks for the frame of a polygon and passes over what is around
it, takes the items between commas up to the first `),`, and reads of every item two
numbers with parentheses at their ends. The texts it accepts are described by their
parts, and of the parts it can be told whether the text is in the dialect.
-/

namespace PlaceSearch.Wkt

/-! ## The dialect -/

/-- The text, trimmed, is a polygon whose outer ring spells the ring and whose holes have
    points. -/
def InDialect (text : String) (ring : List (Point Degrees)) : Prop :=
  ∃ (w : HoledPolygon) (holes : List (List (Point Degrees))),
    Text.trim text = w.text ∧ w.Spells ring holes ∧ [] ∉ holes

/-! ## Loose polygons -/

/-- A text as the reader takes it apart: the parts of its frame, with the body as the items of the
    first ring and what follows them. -/
structure LoosePolygon where
  front : List Char
  keyword : List Char
  gap : List Char
  items : List Item
  rest : List Char
  behind : List Char

namespace LoosePolygon

def ringText (v : LoosePolygon) : List Char := [','].intercalate (v.items.map Item.text)

def frame (v : LoosePolygon) : Frame where
  front := v.front
  keyword := v.keyword
  gap := v.gap
  body := v.ringText ++ v.rest
  behind := v.behind

def text (v : LoosePolygon) : String := String.ofList v.frame.text

/-- The items hold the points of the ring, and nothing in front of their end looks like the end of
    an item or of the ring. -/
structure Shows (v : LoosePolygon) (ring : List (Point Degrees)) : Prop where
  frame : v.frame.IsOutermost
  items : List.Forall₂ Item.Holds v.items ring
  ne_nil : ring ≠ []
  comma : ∀ item ∈ v.items, ',' ∉ item.rest
  separator : ¬ [')', ','] <:+: v.ringText
  rest : v.rest = [] ∨ [')', ','] <+: v.rest

end LoosePolygon

/-- The item is two numbers and white space. -/
structure Item.IsPair (i : Item) : Prop where
  first : '(' ∉ i.first
  second : ')' ∉ i.second
  rest : Text.IsSpace i.rest

instance : DecidablePred Item.IsPair := fun i =>
  decidable_of_iff ('(' ∉ i.first ∧ ')' ∉ i.second ∧ Text.IsSpace i.rest)
    ⟨fun ⟨first, second, rest⟩ => ⟨first, second, rest⟩,
      fun ⟨first, second, rest⟩ => ⟨first, second, rest⟩⟩

/-- Nothing is passed over but white space and holes. -/
structure LoosePolygon.IsStrict (v : LoosePolygon) : Prop where
  front : Text.IsSpace v.front
  items : ∀ item ∈ v.items, item.IsPair
  rest : ∃ (holes : List WrittenHole) (rings : List (List (Point Degrees))),
    v.rest = holes.flatMap WrittenHole.text ∧ List.Forall₂ WrittenHole.Spells holes rings ∧
      [] ∉ rings
  behind : Text.IsSpace v.behind

/-! ## Items of the dialect -/

namespace Item

variable {i : Item} {p : Point Degrees}

theorem Holds.comma_notMem_text (h : i.Holds p) (hrest : ',' ∉ i.rest) : ',' ∉ i.text := by
  have hword {paren : Char} {word : List Char} {x : Degrees} (hparen : ',' ≠ paren)
      (hwraps : WrapsNumber paren word x) : ',' ∉ word := by
    intro hcomma
    obtain heq | hnumber := hwraps.eq_or_mayStandInNumber hcomma
    · exact hparen heq
    · exact absurd hnumber (by decide)
  simp only [text, List.mem_append, not_or]
  exact ⟨⟨⟨⟨h.before.notMem (by decide), hword (by decide) h.first⟩, h.between.notMem (by decide)⟩,
    hword (by decide) h.second⟩, hrest⟩

/-- The written pair of an item that is one. -/
def pair (i : Item) : WrittenPair := ⟨i.before, i.first, i.between, i.second, i.rest⟩

theorem pair_text (i : Item) : i.pair.text = i.text := rfl

theorem Holds.spells_pair (h : i.Holds p) (hpair : i.IsPair) : i.pair.Spells p where
  before := h.before
  lng := h.first.readFinite?_of_notMem hpair.first
  between := h.between
  between_ne_nil := h.between_ne_nil
  lat := h.second.readFinite?_of_notMem hpair.second
  behind := hpair.rest

/-- An item is a pair if it has the text of one. -/
theorem Holds.isPair_of_text_eq {w : WrittenPair} {q : Point Degrees} (h : i.Holds p)
    (hw : w.Spells q) (htext : w.text = i.text) : i.IsPair := by
  have hwords := hw.words_text
  rw [htext, h.words_text] at hwords
  obtain ⟨hfirst, hwords⟩ := List.cons.inj hwords
  obtain ⟨hsecond, hrest⟩ := List.cons.inj hwords
  refine ⟨?_, ?_, Text.isSpace_of_words_eq_nil hrest⟩
  · rw [hfirst]
    exact notMem_of_readFinite? hw.lng (by decide)
  · rw [hsecond]
    exact notMem_of_readFinite? hw.lat (by decide)

end Item

/-! ## What the reader accepts -/

namespace LoosePolygon

variable {v : LoosePolygon} {ring : List (Point Degrees)} {text : String}

theorem Shows.items_ne_nil (h : v.Shows ring) : v.items ≠ [] := by
  intro hnil
  have hitems := h.items
  rw [hnil, List.forall₂_nil_left_iff] at hitems
  exact h.ne_nil hitems

theorem Shows.splitOn_ringText (h : v.Shows ring) :
    Text.splitOn ',' v.ringText = v.items.map Item.text := by
  apply Text.splitOn_intercalate
  · exact fun hnil => h.items_ne_nil (List.map_eq_nil_iff.mp hnil)
  · rw [List.forall_mem_map]
    intro item hitem
    obtain ⟨p, hp⟩ := exists_of_forall₂ h.items item hitem
    exact hp.comma_notMem_text (h.comma item hitem)

theorem Shows.firstRing_body (h : v.Shows ring) : firstRing v.frame.body = v.ringText :=
  firstRing_append_rest h.separator h.rest

theorem Shows.readPairs (h : v.Shows ring) :
    readPairs (Text.splitOn ',' v.ringText) = .ok ring := by
  rw [h.splitOn_ringText, readPairs_eq_ok_iff, List.forall₂_map_left_iff]
  exact h.items.imp fun item p hitem => readPair?_eq_some_iff.mpr ⟨item, rfl, hitem⟩

theorem Shows.trimChars_body_ne_nil (h : v.Shows ring) : Text.trimChars v.frame.body ≠ [] := by
  obtain ⟨item, items, hitems⟩ := List.exists_cons_of_ne_nil h.items_ne_nil
  obtain ⟨p, hp⟩ := exists_of_forall₂ h.items item (hitems ▸ List.mem_cons_self)
  obtain ⟨more, hmore⟩ := Text.exists_intercalate_cons [','] item.text (items.map Item.text)
  obtain ⟨c, hc, hnumber⟩ := hp.first.exists_mayStandInNumber
  intro hnil
  have hbody : v.frame.body = item.text ++ (more ++ v.rest) := by
    rw [LoosePolygon.frame, ringText, hitems, List.map_cons, hmore, List.append_assoc]
  exact (Text.isSpace_of_trimChars_eq_nil hnil).notMem hnumber.isBlank_eq_false
    (by simp [hbody, Item.text, hc])

/-- A loose polygon reads as the ring it shows. -/
theorem Shows.readRing_eq (h : v.Shows ring) : readRing v.text = .ok ring := by
  have hbody : body? v.text = some v.frame.body :=
    body?_eq_some_iff.mpr ⟨h.trimChars_body_ne_nil, v.frame, by simp [text], rfl, h.frame⟩
  rw [readRing, hbody]
  dsimp only
  rw [h.firstRing_body, h.readPairs]

theorem exists_items_of_readPairs {parts : List (List Char)} (h : Wkt.readPairs parts = .ok ring) :
    ∃ items : List Item, items.map Item.text = parts ∧ List.Forall₂ Item.Holds items ring := by
  rw [readPairs_eq_ok_iff] at h
  induction h with
  | nil => exact ⟨[], rfl, .nil⟩
  | cons hpart _ ih =>
    obtain ⟨item, rfl, hitem⟩ := readPair?_eq_some_iff.mp hpart
    obtain ⟨items, rfl, hitems⟩ := ih
    exact ⟨item :: items, rfl, .cons hitem hitems⟩

/-- What reads as a ring is a loose polygon that shows it. -/
theorem exists_shows_of_readRing (h : readRing text = .ok ring) :
    ∃ v : LoosePolygon, v.text = text ∧ v.Shows ring := by
  unfold readRing at h
  split at h
  · cases h
  · next body hbody =>
    obtain ⟨-, f, htext, rfl, hf⟩ := body?_eq_some_iff.mp hbody
    obtain ⟨rest, hrest, hseparator, hend⟩ := exists_firstRing_append f.body
    obtain ⟨items, hparts, hitems⟩ := exists_items_of_readPairs h
    let v : LoosePolygon := ⟨f.front, f.keyword, f.gap, items, rest, f.behind⟩
    have hring : v.ringText = firstRing f.body := by
      rw [ringText, hparts, Text.intercalate_splitOn]
    have hframe : v.frame = f := by
      rw [frame, hring, ← hrest]
    refine ⟨v, by rw [LoosePolygon.text, hframe, htext, String.ofList_toList], ?_⟩
    refine ⟨hframe ▸ hf, hitems, ?_, ?_, hring ▸ hseparator, hend⟩
    · rintro rfl
      rw [List.forall₂_nil_right_iff.mp hitems] at hparts
      exact Text.splitBy_ne_nil _ _ hparts.symm
    · intro item hitem hcomma
      have hpart : item.text ∈ Text.splitOn ',' (firstRing f.body) :=
        hparts ▸ List.mem_map_of_mem hitem
      exact Text.not_mem_of_mem_splitOn hpart (by simp [Item.text, hcomma])

/-! ## What is in the dialect -/

section Dialect

variable {w : HoledPolygon} {holes : List (List (Point Degrees))}

/-- A polygon with holes is framed by its outermost parentheses, whatever white space stands around
    it. -/
theorem isOutermost_of_spells (h : w.Spells ring holes) {front behind : List Char}
    (hfront : Text.IsSpace front) (hbehind : Text.IsSpace behind) :
    Frame.IsOutermost ⟨front, w.keyword, w.gap, w.body, behind⟩ where
  keyword := h.keyword
  gap := h.gap
  first := by
    intro n hn
    have hblank : Text.isBlank front[n] = true := hfront _ (List.getElem_mem hn)
    rw [Frame.text, List.drop_append_of_le_length (Nat.le_of_lt hn),
      List.drop_eq_getElem_cons hn, List.cons_append]
    exact not_opens_of_isBlank hblank _
  last := by
    have hparen : ')' ∉ behind := hbehind.notMem (by decide)
    rw [List.infix_cons_iff, not_or, closing_prefix_cons_iff]
    refine ⟨fun hclosing => hparen (List.mem_of_mem_head? hclosing.2), fun hclosing => ?_⟩
    exact hparen (hclosing.subset List.mem_cons_self)

theorem toList_text_eq (w : HoledPolygon) (front behind : List Char) :
    front ++ w.text.toList ++ behind =
      Frame.text ⟨front, w.keyword, w.gap, w.body, w.tail ++ behind⟩ := by
  simp [HoledPolygon.text, Frame.text]

/-- What is trimmed off a polygon with holes stands outside its frame. -/
theorem exists_frame_of_trim_eq (h : w.Spells ring holes) (htrim : Text.trim text = w.text) :
    ∃ f : Frame, f.text = text.toList ∧ f.IsOutermost ∧ f.body = w.body ∧ Text.IsSpace f.front ∧
      Text.IsSpace f.behind := by
  obtain ⟨front, back, htext, hfront, hback⟩ :=
    Text.exists_append_stripWhile Text.isBlank text.toList
  have hstrip : Text.stripWhile Text.isBlank text.toList = w.text.toList := by
    rw [← htrim, Text.trim, String.toList_ofList, Text.trimChars]
  have hbehind : Text.IsSpace (w.tail ++ back) := List.forall_mem_append.mpr ⟨h.tail, hback⟩
  refine ⟨_, ?_, isOutermost_of_spells h hfront hbehind, rfl, hfront, hbehind⟩
  rw [← toList_text_eq, ← hstrip, ← htext]

/-- The first ring of a body is the outer ring, if it reads as this ring. -/
theorem Shows.ringText_eq (h : v.Shows ring) (hw : w.Spells ring holes)
    (hbody : v.frame.body = w.body) : v.ringText = Wkt.ringText w.pairs := by
  have hread : readRing w.text = .ok ring := by
    rw [readRing, hw.body?_text h.ne_nil]
    dsimp only
    rw [← hbody, h.firstRing_body, h.readPairs]
  have hjoined := (hw.readRing_eq_ring_iff h.ne_nil).mp hread
  rw [← h.firstRing_body, hbody, hw.firstRing_body, hjoined, List.flatMap_nil, List.append_nil]

/-- A loose polygon that is in the dialect is strict. -/
theorem Shows.isStrict_of_inDialect (h : v.Shows ring) (hdialect : InDialect v.text ring) :
    v.IsStrict := by
  obtain ⟨w, holes, htrim, hw, hempty⟩ := hdialect
  obtain ⟨f, htext, hf, hwbody, hfront, hbehind⟩ := exists_frame_of_trim_eq hw htrim
  rw [LoosePolygon.text, String.toList_ofList] at htext
  obtain ⟨hfronts, hbodies, hbehinds⟩ := h.frame.eq_parts hf htext.symm
  have hbody : v.frame.body = w.body := hbodies.trans hwbody
  have hring := h.ringText_eq hw hbody
  refine ⟨?_, ?_, ⟨w.holes, holes, ?_, hw.holes, hempty⟩, ?_⟩
  · rwa [show v.front = f.front from hfronts]
  · have htexts : v.items.map Item.text = w.pairs.map WrittenPair.text := by
      rw [← h.splitOn_ringText, hring, Wkt.splitOn_ringText hw.pairs h.ne_nil]
    intro item hitem
    have hpair : item.text ∈ w.pairs.map WrittenPair.text := htexts ▸ List.mem_map_of_mem hitem
    obtain ⟨pair, hmem, hsame⟩ := List.mem_map.mp hpair
    obtain ⟨p, hp⟩ := exists_of_forall₂ h.items item hitem
    obtain ⟨q, hq⟩ := exists_of_forall₂ hw.pairs pair hmem
    exact hp.isPair_of_text_eq hq hsame
  · have hparts : v.ringText ++ v.rest = Wkt.ringText w.pairs ++ _ := hbody
    rw [hring] at hparts
    exact List.append_cancel_left hparts
  · rwa [show v.behind = f.behind from hbehinds]

theorem startsVisibly_text_of_spells (h : w.Spells ring holes) :
    Text.StartsVisibly w.text.toList := by
  obtain ⟨c, keyword, hletter, -, hkeyword⟩ := List.forall₂_cons_right_iff.mp h.keyword
  rw [HoledPolygon.text, String.toList_ofList, hkeyword]
  simp only [List.cons_append, Text.startsVisibly_cons]
  obtain rfl | rfl := hletter
  · decide
  · decide

theorem endsVisibly_text (h : w.tail = []) : Text.EndsVisibly w.text.toList := by
  rw [HoledPolygon.text, String.toList_ofList, h, List.append_nil]
  exact Text.EndsVisibly.append_left (by decide) _

/-- A strict polygon is in the dialect. -/
theorem Shows.inDialect_of_isStrict (h : v.Shows ring) (hstrict : v.IsStrict) :
    InDialect v.text ring := by
  obtain ⟨holes, rings, hrest, hholes, hempty⟩ := hstrict.rest
  let w : HoledPolygon := {
    keyword := v.keyword
    gap := v.gap
    pairs := v.items.map Item.pair
    tail := []
    holes := holes }
  have htexts : w.pairs.map WrittenPair.text = v.items.map Item.text := by
    simp [w, Item.pair_text]
  have hframe : v.frame.text = v.front ++ w.text.toList ++ v.behind := by
    rw [toList_text_eq, List.nil_append, HoledPolygon.body, Wkt.ringText, htexts, ← hrest]
    rfl
  have hspells : w.Spells ring rings := by
    refine ⟨⟨h.frame.keyword, h.frame.gap, ?_, List.forall_mem_nil _⟩, hholes⟩
    have hitems := (List.forall₂_and_left v.items ring).mpr ⟨hstrict.items, h.items⟩
    rw [List.forall₂_map_left_iff]
    exact hitems.imp fun item p hitem => hitem.2.spells_pair hitem.1
  refine ⟨w, rings, ?_, hspells, hempty⟩
  rw [Text.trim, LoosePolygon.text, String.toList_ofList, hframe, Text.trimChars,
    Text.stripWhile_append hstrict.front hstrict.behind]
  have htrimmed := Text.trimChars_eq_self (startsVisibly_text_of_spells hspells) (endsVisibly_text rfl)
  rw [Text.trimChars] at htrimmed
  rw [htrimmed, String.ofList_toList]

end Dialect

/-- A text reads as a ring exactly if it is a loose polygon that shows the ring. Of these texts the
    strict ones are in the dialect, and no others. -/
theorem readRing_acceptsLoosely (text : String) (ring : List (Point Degrees)) :
    (readRing text = .ok ring ↔ ∃ v : LoosePolygon, v.text = text ∧ v.Shows ring) ∧
      ∀ v : LoosePolygon, v.text = text → v.Shows ring → (InDialect text ring ↔ v.IsStrict) := by
  refine ⟨⟨exists_shows_of_readRing, ?_⟩, ?_⟩
  · rintro ⟨v, rfl, h⟩
    exact h.readRing_eq
  · rintro v rfl h
    exact ⟨h.isStrict_of_inDialect, h.inDialect_of_isStrict⟩

/-! ### Three points, and anything behind the second -/

def ofThree (behindSecond : List Char) : LoosePolygon where
  front := []
  keyword := "POLYGON".toList
  gap := []
  items := [⟨[], ['0'], [' '], ['0'], []⟩, ⟨[' '], ['1'], [' '], ['0'], behindSecond⟩,
    ⟨[' '], ['0'], [' '], ['0'], []⟩]
  rest := []
  behind := []

def threePoints : List (Point Degrees) :=
  [⟨.ofFloat 0, .ofFloat 0⟩, ⟨.ofFloat 0, .ofFloat 1⟩, ⟨.ofFloat 0, .ofFloat 0⟩]

theorem shows_ofThree {behindSecond : List Char}
    (hblank : ∀ c ∈ behindSecond.head?, Text.isBlank c = true) (hcomma : ',' ∉ behindSecond)
    (hseparator : ¬ [')', ','] <:+: (ofThree behindSecond).ringText) :
    (ofThree behindSecond).Shows threePoints := by
  have hzeros := (List.forall₂_cons.mp HoledPolygon.spells_triangles.1).1
  have hones := (List.forall₂_cons.mp HoledPolygon.spells_triangles.2).1
  have hzero (paren : Char) : WrapsNumber paren ['0'] (.ofFloat 0) :=
    wrapsNumber_of_readFinite? hzeros.lng
  have hone : WrapsNumber '(' ['1'] (.ofFloat 1) := wrapsNumber_of_readFinite? hones.lng
  have hspace : Text.IsSpace [' '] := by decide
  have hnone : ∀ c ∈ ([] : List Char).head?, Text.isBlank c = true := by simp
  constructor
  case frame =>
    exact ⟨(by decide : IsKeyword "POLYGON".toList), List.forall_mem_nil _,
      fun n hn => absurd hn (Nat.not_lt_zero n), (by decide : ¬ [')', ')'] <:+: [')'])⟩
  case items =>
    exact .cons ⟨List.forall_mem_nil _, hzero '(', hspace, by decide, hzero ')', hnone⟩
      (.cons ⟨hspace, hone, hspace, List.cons_ne_nil _ _, hzero ')', hblank⟩
        (.cons ⟨hspace, hzero '(', hspace, by decide, hzero ')', hnone⟩ .nil))
  case ne_nil => exact List.cons_ne_nil _ _
  case comma => simp [ofThree, hcomma]
  case separator => exact hseparator
  case rest => exact Or.inl rfl

theorem shows_ofThree_nil : (ofThree []).Shows threePoints :=
  shows_ofThree (by simp) (by decide) (by decide)

/-- The comma between the second and the third of four points is missing. -/
theorem shows_ofThree_missingComma : (ofThree " 1 1".toList).Shows threePoints :=
  shows_ofThree (by simp [Text.isBlank]) (by decide) (by decide)

theorem not_isStrict_missingComma : ¬ (ofThree " 1 1".toList).IsStrict := by
  intro h
  exact absurd h.items (by decide)

/-- Three points are in the dialect. With two more numbers behind the second they still read as a
    ring, but no longer are. -/
theorem readRing_acceptsLoosely_ofThree :
    (ofThree []).text = "POLYGON((0 0, 1 0, 0 0))" ∧ (ofThree []).Shows threePoints ∧
      InDialect (ofThree []).text threePoints ∧
      (ofThree " 1 1".toList).text = "POLYGON((0 0, 1 0 1 1, 0 0))" ∧
      (ofThree " 1 1".toList).Shows threePoints ∧
      readRing (ofThree " 1 1".toList).text = .ok threePoints ∧
      ¬ InDialect (ofThree " 1 1".toList).text threePoints := by
  have hstrict : (ofThree []).IsStrict := by
    refine ⟨List.forall_mem_nil _, by decide, ⟨[], [], rfl, .nil, List.not_mem_nil⟩, ?_⟩
    exact List.forall_mem_nil _
  refine ⟨by decide, shows_ofThree_nil, ?_, by decide, shows_ofThree_missingComma, ?_, ?_⟩
  · exact ((readRing_acceptsLoosely _ _).2 _ rfl shows_ofThree_nil).mpr hstrict
  · exact (readRing_acceptsLoosely _ _).1.mpr ⟨_, rfl, shows_ofThree_missingComma⟩
  · rw [(readRing_acceptsLoosely _ _).2 _ rfl shows_ofThree_missingComma]
    exact not_isStrict_missingComma

/-- Not every text that reads as a ring is in the dialect. -/
theorem not_forall_inDialect :
    ¬ ∀ (text : String) (ring : List (Point Degrees)),
      readRing text = .ok ring → InDialect text ring := by
  intro h
  have hread := shows_ofThree_missingComma.readRing_eq
  exact not_isStrict_missingComma
    (shows_ofThree_missingComma.isStrict_of_inDialect (h _ _ hread))

end LoosePolygon

end PlaceSearch.Wkt
