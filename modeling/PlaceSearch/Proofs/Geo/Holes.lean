-- SUMMARY: Polygon texts with holes: the outer ring alone is read just if no white space stands between its closing parenthesis and the comma.
import PlaceSearch.Proofs.Geo.Frame
import PlaceSearch.Proofs.Geo.Item

/-!
# Polygons with holes

Behind its outer ring a polygon text may have holes: further rings, each in parentheses
of its own and set off by a comma. The reader knows the end of the outer ring by a closing
parenthesis with the comma right behind it. White space between the two hides the end
from it, and the points of the hole are read as if they belonged to the ring.
-/

namespace PlaceSearch.Wkt

/-! ## Written holes -/

/-- A hole as it is written: the white space on both sides of the comma, and the pairs. -/
structure WrittenHole where
  beforeComma : List Char
  behindComma : List Char
  pairs : List WrittenPair

namespace WrittenHole

/-- The end of the ring in front, the comma, and the hole up to its own end. -/
def text (w : WrittenHole) : List Char :=
  ')' :: (w.beforeComma ++ ',' :: (w.behindComma ++ '(' :: ringText w.pairs))

/-- The pairs spell those of the ring, and there is only white space about the comma. -/
structure Spells (w : WrittenHole) (ring : List (Point Degrees)) : Prop where
  beforeComma : Text.IsSpace w.beforeComma
  behindComma : Text.IsSpace w.behindComma
  pairs : List.Forall₂ WrittenPair.Spells w.pairs ring

/-- The end of the ring in front can be seen: the comma is right behind the parenthesis. -/
def IsSetOff (w : WrittenHole) : Prop := w.beforeComma = []

instance : DecidablePred IsSetOff := fun w => inferInstanceAs (Decidable (w.beforeComma = []))

end WrittenHole

/-- The first number stands right behind the parenthesis. -/
def BeginsAtOnce (pairs : List WrittenPair) : Prop := ∃ w ∈ pairs.head?, w.before = []

/-! ## The end of the outer ring -/

/-- Up to a closing parenthesis everything belongs to the first ring. -/
theorem firstRing_append {cs : List Char} (h : ')' ∉ cs) (ds : List Char) :
    firstRing (cs ++ ds) = cs ++ firstRing ds := by
  induction cs with
  | nil => rfl
  | cons c cs ih =>
    rw [List.mem_cons, not_or] at h
    rw [List.cons_append, firstRing_cons, ih h.2, List.cons_append]
    rw [List.cons_prefix_cons]
    exact fun hprefix => h.1 hprefix.1

section Hole

variable {hole : WrittenHole} {ring : List (Point Degrees)}

/-- The comma of a hole that is set off ends the ring in front. -/
theorem firstRing_text_of_isSetOff (h : hole.IsSetOff) (more : List Char) :
    firstRing (hole.text ++ more) = [] := by
  rw [WrittenHole.text, h]
  rfl

/-- Other holes are taken for a part of the ring in front. -/
theorem firstRing_text_of_not_isSetOff (hspells : hole.Spells ring) (h : ¬ hole.IsSetOff)
    (more : List Char) : firstRing (hole.text ++ more) = hole.text ++ firstRing more := by
  obtain ⟨c, space, hspace⟩ := List.exists_cons_of_ne_nil h
  have hcomma : ',' ≠ c := by
    rintro rfl
    exact hspells.beforeComma.notMem (by decide) (hspace ▸ List.mem_cons_self)
  have hinner : ')' ∉ hole.beforeComma ++ ',' :: (hole.behindComma ++ '(' :: ringText hole.pairs) := by
    simp only [List.mem_append, List.mem_cons, not_or]
    exact ⟨hspells.beforeComma.notMem (by decide), by decide,
      hspells.behindComma.notMem (by decide), by decide, paren_notMem_ringText hspells.pairs⟩
  rw [WrittenHole.text, List.cons_append, List.cons_append, ← firstRing_append hinner]
  apply firstRing_cons
  rw [hspace, List.cons_append, List.cons_append, List.cons_prefix_cons, List.cons_prefix_cons]
  exact fun hprefix => hcomma hprefix.2.1

end Hole

/-- The first ring runs on over the holes in front of the first that is set off. -/
theorem firstRing_flatMap_text {holes : List WrittenHole} {rings : List (List (Point Degrees))}
    (h : List.Forall₂ WrittenHole.Spells holes rings) :
    firstRing (holes.flatMap WrittenHole.text) =
      (holes.takeWhile (¬ WrittenHole.IsSetOff ·)).flatMap WrittenHole.text := by
  induction h with
  | nil => rfl
  | @cons hole ring holes rings hhole _ ih =>
    rw [List.flatMap_cons, List.takeWhile_cons]
    by_cases hoff : hole.IsSetOff
    · rw [firstRing_text_of_isSetOff hoff, if_neg (by simpa using hoff)]
      rfl
    · rw [firstRing_text_of_not_isSetOff hhole hoff, if_pos (by simpa using hoff), ih,
        List.flatMap_cons]

/-! ## Pairs next to parentheses -/

/-- What may stand in front of the first pair of a run: white space and a parenthesis, if the run
    is a hole's. -/
def IsLead (lead : List Char) : Prop :=
  lead = [] ∨ ∃ space, Text.IsSpace space ∧ lead = space ++ ['(']

/-- What may stand behind the last pair of a run: its parenthesis and white space, if the run is
    not the last. -/
def IsClosing (closing : List Char) : Prop :=
  closing = [] ∨ ∃ space, Text.IsSpace space ∧ closing = ')' :: space

section Pair

variable {w : WrittenPair} {p q : Point Degrees} {lead closing : List Char}

theorem IsLead.not_mayStandInNumber (h : IsLead lead) : ∀ c ∈ lead, ¬ MayStandInNumber c := by
  obtain rfl | ⟨space, hspace, rfl⟩ := h
  · exact List.forall_mem_nil _
  · refine List.forall_mem_append.mpr ⟨?_, List.forall_mem_singleton.mpr (by decide)⟩
    exact fun c hc hnumber => hspace.notMem hnumber.isBlank_eq_false hc

theorem IsClosing.not_mayStandInNumber (h : IsClosing closing) :
    ∀ c ∈ closing, ¬ MayStandInNumber c := by
  obtain rfl | ⟨space, hspace, rfl⟩ := h
  · exact List.forall_mem_nil _
  · refine List.forall_mem_cons.mpr ⟨by decide, ?_⟩
    exact fun c hc hnumber => hspace.notMem hnumber.isBlank_eq_false hc

theorem IsLead.comma_notMem (h : IsLead lead) : ',' ∉ lead := by
  obtain rfl | ⟨space, hspace, rfl⟩ := h
  · exact List.not_mem_nil
  · rw [List.mem_append, not_or]
    exact ⟨hspace.notMem (by decide), by decide⟩

theorem IsClosing.comma_notMem (h : IsClosing closing) : ',' ∉ closing := by
  obtain rfl | ⟨space, hspace, rfl⟩ := h
  · exact List.not_mem_nil
  · rw [List.mem_cons, not_or]
    exact ⟨by decide, hspace.notMem (by decide)⟩

/-- The first number with what stands in front of it. The parenthesis of a hole is stripped off if
    it touches the number. -/
theorem exists_first (h : w.Spells p) (hlead : IsLead lead) (hbegin : lead = [] ∨ w.before = []) :
    ∃ space first, lead ++ w.before ++ w.lng = space ++ first ∧ Text.IsSpace space ∧
      WrapsNumber '(' first p.lng := by
  obtain rfl | ⟨space, hspace, rfl⟩ := hlead
  · exact ⟨w.before, w.lng, rfl, h.before, wrapsNumber_of_readFinite? h.lng⟩
  · obtain hnil | hbefore := hbegin
    · exact absurd hnil (List.append_ne_nil_of_right_ne_nil space (List.cons_ne_nil '(' []))
    · refine ⟨space, '(' :: w.lng, ?_, hspace, ['('], w.lng, [], ?_, ?_, ?_, h.lng⟩
      · rw [hbefore, List.append_nil, List.append_assoc, List.singleton_append]
      · rw [List.append_nil, List.singleton_append]
      · exact List.forall_mem_singleton.mpr rfl
      · exact List.forall_mem_nil _

/-- The second number with what stands behind it. -/
theorem exists_second (h : w.Spells p) (hclosing : IsClosing closing) :
    ∃ second rest, w.lat ++ w.behind ++ closing = second ++ rest ∧ WrapsNumber ')' second p.lat ∧
      ∀ c ∈ rest.head?, Text.isBlank c = true := by
  obtain rfl | ⟨space, hspace, rfl⟩ := hclosing
  · refine ⟨w.lat, w.behind, List.append_nil _, wrapsNumber_of_readFinite? h.lat, ?_⟩
    exact fun c hc => h.behind c (List.mem_of_mem_head? hc)
  · cases hbehind : w.behind with
    | nil =>
      refine ⟨w.lat ++ [')'], space, ?_, ⟨[], w.lat, [')'], rfl, ?_, ?_, h.lat⟩, ?_⟩
      · simp
      · exact List.forall_mem_nil _
      · exact List.forall_mem_singleton.mpr rfl
      · exact fun c hc => hspace c (List.mem_of_mem_head? hc)
    | cons c more =>
      refine ⟨w.lat, c :: more ++ ')' :: space, ?_, wrapsNumber_of_readFinite? h.lat, ?_⟩
      · rw [List.append_assoc]
      · intro d hd
        cases hd
        exact h.behind c (hbehind ▸ List.mem_cons_self)

/-- A parenthesis with white space behind it is a word of its own, and no number. -/
theorem readPair?_eq_none_of_apart {space : List Char} (hspace : Text.IsSpace space)
    (h : w.Spells p) (hbefore : w.before ≠ []) (more : List Char) :
    (readPair? (space ++ ['('] ++ (w.text ++ more)) : Option (Point Degrees)) = none := by
  have htext : space ++ ['('] ++ (w.text ++ more) =
      space ++ ['('] ++ w.before ++ (w.lng ++ w.between ++ w.lat ++ w.behind ++ more) := by
    simp [WrittenPair.text]
  have hwords := Text.words_append_of_isSpace h.before hbefore (space ++ ['('])
    (w.lng ++ w.between ++ w.lat ++ w.behind ++ more)
  rw [← htext, Text.words_append_of_isSpace_left hspace] at hwords
  rw [Option.eq_none_iff_forall_ne_some]
  intro q hq
  obtain ⟨first, second, others, hfirst, hwraps, -⟩ := readPair?_eq_some_iff_words.mp hq
  rw [hwords] at hfirst
  obtain ⟨rfl, -⟩ := List.cons.inj hfirst
  obtain ⟨c, hc, hnumber⟩ := hwraps.exists_mayStandInNumber
  cases List.mem_singleton.mp hc
  exact absurd hnumber (by decide)

/-- The first pair of a hole reads if its number touches the parenthesis, and so does every pair
    without a parenthesis in front. -/
theorem readPair?_enclosed_iff (h : w.Spells p) (hlead : IsLead lead)
    (hclosing : IsClosing closing) :
    readPair? (lead ++ (w.text ++ closing)) = some q ↔ (lead = [] ∨ w.before = []) ∧ q = p := by
  have hread (hbegin : lead = [] ∨ w.before = []) :
      readPair? (lead ++ (w.text ++ closing)) = some p := by
    obtain ⟨space, first, hfront, hspace, hfirst⟩ := exists_first h hlead hbegin
    obtain ⟨second, rest, hback, hsecond, hrest⟩ := exists_second h hclosing
    refine readPair?_eq_some_iff.mpr ⟨⟨space, first, w.between, second, rest⟩, ?_, hspace, hfirst,
      h.between, h.between_ne_nil, hsecond, hrest⟩
    rw [Item.text, List.append_assoc _ second, ← hfront, ← hback]
    simp [WrittenPair.text]
  constructor
  · intro hq
    by_cases hbegin : lead = [] ∨ w.before = []
    · rw [hread hbegin] at hq
      exact ⟨hbegin, (Option.some.inj hq).symm⟩
    · rw [not_or] at hbegin
      obtain rfl | ⟨space, hspace, rfl⟩ := hlead
      · exact absurd rfl hbegin.1
      · rw [readPair?_eq_none_of_apart hspace h hbegin.2] at hq
        cases hq
  · rintro ⟨hbegin, rfl⟩
    exact hread hbegin

end Pair

/-! ## Runs of pairs -/

section Run

variable {pairs : List WrittenPair} {ring points : List (Point Degrees)} {lead closing : List Char}

theorem ringText_cons_cons (w next : WrittenPair) (pairs : List WrittenPair) :
    ringText (w :: next :: pairs) = w.text ++ ',' :: ringText (next :: pairs) := by
  simp [ringText]

/-- The pairs of one ring, with its parentheses about them as far as the reader sees them. -/
theorem readPairs_run_iff (h : List.Forall₂ WrittenPair.Spells pairs ring) (hlead : IsLead lead)
    (hclosing : IsClosing closing) :
    readPairs (Text.splitOn ',' (lead ++ (ringText pairs ++ closing))) = .ok points ↔
      (∃ w ∈ pairs.head?, lead = [] ∨ w.before = []) ∧ points = ring := by
  -- only the first pair has the lead in front, and only the last the closing behind
  induction h generalizing lead points with
  | nil =>
    have hnone : (readPair? (lead ++ closing) : Option (Point Degrees)) = none :=
      readPair?_eq_none_of_forall
        (List.forall_mem_append.mpr ⟨hlead.not_mayStandInNumber, hclosing.not_mayStandInNumber⟩)
    have hcomma : ',' ∉ lead ++ closing := by
      rw [List.mem_append, not_or]
      exact ⟨hlead.comma_notMem, hclosing.comma_notMem⟩
    change readPairs (Text.splitOn ',' (lead ++ closing)) = _ ↔ _
    rw [Text.splitOn_eq_singleton hcomma, readPairs_cons_eq_ok_iff]
    simp [hnone]
  | @cons w p pairs ring hpair hpairs ih =>
    have hcomma : ',' ∉ lead ++ w.text := by
      rw [List.mem_append, not_or]
      exact ⟨hlead.comma_notMem, hpair.notMem_text (by decide) (by decide)⟩
    cases hpairs with
    | nil =>
      have hall : ',' ∉ lead ++ (w.text ++ closing) := by
        rw [← List.append_assoc, List.mem_append, not_or]
        exact ⟨hcomma, hclosing.comma_notMem⟩
      rw [ringText, List.map_singleton, List.intercalate_singleton,
        Text.splitOn_eq_singleton hall, readPairs_cons_eq_ok_iff]
      constructor
      · rintro ⟨q, none, hq, ⟨⟩, rfl⟩
        obtain ⟨hbegin, rfl⟩ := (readPair?_enclosed_iff hpair hlead hclosing).mp hq
        exact ⟨⟨w, rfl, hbegin⟩, rfl⟩
      · rintro ⟨⟨_, ⟨⟩, hbegin⟩, rfl⟩
        exact ⟨p, [], (readPair?_enclosed_iff hpair hlead hclosing).mpr ⟨hbegin, rfl⟩, rfl, rfl⟩
    | @cons next p' pairs ring hnext hpairs =>
      have hread (q : Point Degrees) :
          readPair? (lead ++ w.text) = some q ↔ (lead = [] ∨ w.before = []) ∧ q = p := by
        rw [← List.append_nil w.text]
        exact readPair?_enclosed_iff hpair hlead (Or.inl rfl)
      have hrest (more : List (Point Degrees)) :
          readPairs (Text.splitOn ',' (ringText (next :: pairs) ++ closing)) = .ok more ↔
            more = p' :: ring := by
        rw [← List.nil_append (ringText (next :: pairs) ++ closing), ih (Or.inl rfl)]
        simp
      rw [ringText_cons_cons, List.append_assoc, List.cons_append, ← List.append_assoc,
        Text.splitOn_append_cons, Text.splitOn_eq_singleton hcomma, List.singleton_append,
        readPairs_cons_eq_ok_iff]
      simp only [hread, hrest]
      constructor
      · rintro ⟨q, more, ⟨hbegin, rfl⟩, rfl, rfl⟩
        exact ⟨⟨w, rfl, hbegin⟩, rfl⟩
      · rintro ⟨⟨_, ⟨⟩, hbegin⟩, rfl⟩
        exact ⟨p, _, ⟨hbegin, rfl⟩, rfl, rfl⟩

/-- The pairs of a ring and of the holes that follow it: each hole has to begin at once behind
    its parenthesis, and its points follow those of the ring. -/
theorem readPairs_holes_iff {holes : List WrittenHole} {rings : List (List (Point Degrees))}
    (hholes : List.Forall₂ WrittenHole.Spells holes rings)
    (h : List.Forall₂ WrittenPair.Spells pairs ring) (hlead : IsLead lead) :
    readPairs (Text.splitOn ',' (lead ++ (ringText pairs ++ holes.flatMap WrittenHole.text))) =
        .ok points ↔
      (∃ w ∈ pairs.head?, lead = [] ∨ w.before = []) ∧
        (∀ hole ∈ holes, BeginsAtOnce hole.pairs) ∧ points = ring ++ rings.flatten := by
  induction hholes generalizing lead pairs ring points with
  | nil =>
    rw [List.flatMap_nil, readPairs_run_iff h hlead (Or.inl rfl)]
    simp
  | @cons hole holeRing holes rings hhole _ ih =>
    -- the comma of the hole divides the text into the run in front and that of the hole
    have hclosing : IsClosing (')' :: hole.beforeComma) := Or.inr ⟨_, hhole.beforeComma, rfl⟩
    have hnext : IsLead (hole.behindComma ++ ['(']) := Or.inr ⟨_, hhole.behindComma, rfl⟩
    have htext : lead ++ (ringText pairs ++ (hole :: holes).flatMap WrittenHole.text) =
        lead ++ (ringText pairs ++ ')' :: hole.beforeComma) ++ ',' :: ((hole.behindComma ++ ['(']) ++
          (ringText hole.pairs ++ holes.flatMap WrittenHole.text)) := by
      simp [WrittenHole.text]
    have hbegin : (∃ w ∈ hole.pairs.head?, hole.behindComma ++ ['('] = [] ∨ w.before = []) ↔
        BeginsAtOnce hole.pairs := by
      simp [BeginsAtOnce]
    rw [htext, Text.splitOn_append_cons, readPairs_append_eq_ok_iff, List.forall_mem_cons,
      List.flatten_cons]
    simp only [readPairs_run_iff h hlead hclosing, ih hhole.pairs hnext, hbegin]
    constructor
    · rintro ⟨front, back, ⟨hfirst, rfl⟩, ⟨hhead, htail, rfl⟩, rfl⟩
      exact ⟨hfirst, ⟨hhead, htail⟩, rfl⟩
    · rintro ⟨hfirst, ⟨hhead, htail⟩, rfl⟩
      exact ⟨_, _, ⟨hfirst, rfl⟩, ⟨hhead, htail, rfl⟩, rfl⟩

end Run

/-! ## Polygons with holes -/

/-- A polygon text in its parts, with any number of holes. -/
structure HoledPolygon extends WrittenPolygon where
  holes : List WrittenHole

namespace HoledPolygon

/-- The text between the outermost parentheses. -/
def body (w : HoledPolygon) : List Char :=
  ringText w.pairs ++ w.holes.flatMap WrittenHole.text

def text (w : HoledPolygon) : String :=
  String.ofList (w.keyword ++ w.gap ++ "((".toList ++ w.body ++ "))".toList ++ w.tail)

/-- The outer ring and the holes spell the rings given. -/
structure Spells (w : HoledPolygon) (ring : List (Point Degrees))
    (holes : List (List (Point Degrees))) : Prop extends w.toWrittenPolygon.Spells ring where
  holes : List.Forall₂ WrittenHole.Spells w.holes holes

/-- The holes in front of the first that is set off, which the reader joins to the outer ring. -/
def joined (w : HoledPolygon) : List WrittenHole :=
  w.holes.takeWhile (¬ WrittenHole.IsSetOff ·)

variable {w : HoledPolygon} {ring points : List (Point Degrees)}
  {holes : List (List (Point Degrees))}

theorem Spells.body?_text (h : w.Spells ring holes) (hne : ring ≠ []) :
    body? w.text = some w.body :=
  body?_enclosed h.keyword h.gap h.tail (trimChars_ringText_append_ne_nil h.pairs hne _)

theorem Spells.firstRing_body (h : w.Spells ring holes) :
    firstRing w.body = ringText w.pairs ++ w.joined.flatMap WrittenHole.text := by
  rw [body, firstRing_append (paren_notMem_ringText h.pairs), firstRing_flatMap_text h.holes, joined]

theorem Spells.forall₂_joined (h : w.Spells ring holes) :
    List.Forall₂ WrittenHole.Spells w.joined (holes.take w.joined.length) := by
  have hprefix : w.joined <+: w.holes := List.takeWhile_prefix _
  have htake := List.forall₂_take w.joined.length h.holes
  rwa [← List.prefix_iff_eq_take.mp hprefix] at htake

theorem Spells.pairs_ne_nil (h : w.Spells ring holes) (hne : ring ≠ []) : w.pairs ≠ [] := by
  intro hnil
  have hpairs := h.pairs
  rw [hnil, List.forall₂_nil_left_iff] at hpairs
  exact hne hpairs

/-- The joined holes have to begin at once behind their parentheses, and then their points are
    read behind those of the ring. -/
theorem Spells.readRing_eq_ok_iff (h : w.Spells ring holes) (hne : ring ≠ []) :
    readRing w.text = .ok points ↔
      (∀ hole ∈ w.joined, BeginsAtOnce hole.pairs) ∧
        points = ring ++ (holes.take w.joined.length).flatten := by
  obtain ⟨first, rest, hpairs⟩ := List.exists_cons_of_ne_nil (h.pairs_ne_nil hne)
  rw [readRing, h.body?_text hne]
  dsimp only
  rw [h.firstRing_body, ← List.nil_append (ringText w.pairs ++ _),
    readPairs_holes_iff h.forall₂_joined h.pairs (Or.inl rfl), hpairs]
  simp

theorem joined_eq_nil_iff : w.joined = [] ↔ ∀ hole ∈ w.holes.head?, hole.IsSetOff := by
  rw [joined]
  cases w.holes with
  | nil => simp
  | cons hole holes => simp [List.takeWhile_cons]

/-- A joined hole that begins at once adds points. -/
theorem Spells.flatten_joined_ne_nil (h : w.Spells ring holes) (hjoined : w.joined ≠ [])
    (hbegin : ∀ hole ∈ w.joined, BeginsAtOnce hole.pairs) :
    (holes.take w.joined.length).flatten ≠ [] := by
  have hrings := h.forall₂_joined
  obtain ⟨hole, rest, hhole⟩ := List.exists_cons_of_ne_nil hjoined
  obtain ⟨pair, hpair, -⟩ := hbegin hole (hhole ▸ List.mem_cons_self)
  obtain ⟨pairs, hpairs⟩ := List.head?_eq_some_iff.mp hpair
  rw [hhole, List.forall₂_cons_left_iff] at hrings
  obtain ⟨holeRing, rings, hspells, -, htake⟩ := hrings
  have hring := hspells.pairs
  rw [hpairs, List.forall₂_cons_left_iff] at hring
  obtain ⟨p, more, -, -, rfl⟩ := hring
  rw [hhole, htake]
  exact List.cons_ne_nil _ _

/-- The outer ring alone is read just if no hole is joined to it. -/
theorem Spells.readRing_eq_ring_iff (h : w.Spells ring holes) (hne : ring ≠ []) :
    readRing w.text = .ok ring ↔ w.joined = [] := by
  rw [h.readRing_eq_ok_iff hne]
  constructor
  · rintro ⟨hbegin, hpoints⟩
    by_contra hjoined
    exact h.flatten_joined_ne_nil hjoined hbegin (List.self_eq_append_right.mp hpoints)
  · intro hjoined
    simp [hjoined]

/-- A polygon text with holes reads as its outer ring, without a point of a hole, just if the
    outer parenthesis has the comma right behind it. What else it can read as is the ring with the
    points of all holes up to the first that is set off, and these have to begin at once. -/
theorem readRing_leavesOutHoles (h : w.Spells ring holes) (hne : ring ≠ []) :
    (readRing w.text = .ok ring ↔ ∀ hole ∈ w.holes.head?, hole.IsSetOff) ∧
      ∀ points, readRing w.text = .ok points ↔
        (∀ hole ∈ w.joined, BeginsAtOnce hole.pairs) ∧
          points = ring ++ (holes.take w.joined.length).flatten := by
  constructor
  · rw [h.readRing_eq_ring_iff hne, joined_eq_nil_iff]
  · intro points
    exact h.readRing_eq_ok_iff hne

/-! ### A triangle in a triangle -/

/-- The text `0 0, 10 0, 10 10, 0 0`. -/
def outerPairs : List WrittenPair :=
  [⟨[], ['0'], [' '], ['0'], []⟩, ⟨[' '], ['1', '0'], [' '], ['0'], []⟩,
    ⟨[' '], ['1', '0'], [' '], ['1', '0'], []⟩, ⟨[' '], ['0'], [' '], ['0'], []⟩]

def outerTriangle : List (Point Degrees) :=
  [⟨.ofFloat 0, .ofFloat 0⟩, ⟨.ofFloat 0, .ofFloat 10⟩, ⟨.ofFloat 10, .ofFloat 10⟩,
    ⟨.ofFloat 0, .ofFloat 0⟩]

/-- The text `1 1, 2 1, 2 2, 1 1`. -/
def innerPairs : List WrittenPair :=
  [⟨[], ['1'], [' '], ['1'], []⟩, ⟨[' '], ['2'], [' '], ['1'], []⟩,
    ⟨[' '], ['2'], [' '], ['2'], []⟩, ⟨[' '], ['1'], [' '], ['1'], []⟩]

def innerTriangle : List (Point Degrees) :=
  [⟨.ofFloat 1, .ofFloat 1⟩, ⟨.ofFloat 1, .ofFloat 2⟩, ⟨.ofFloat 2, .ofFloat 2⟩,
    ⟨.ofFloat 1, .ofFloat 1⟩]

theorem spells_triangles :
    List.Forall₂ WrittenPair.Spells outerPairs outerTriangle ∧
      List.Forall₂ WrittenPair.Spells innerPairs innerTriangle := by
  decide +kernel

/-- The inner triangle as a hole of the outer one, with white space in front of the comma or
    without. -/
def ofTriangles (beforeComma : List Char) : HoledPolygon where
  keyword := "POLYGON".toList
  gap := []
  pairs := outerPairs
  tail := []
  holes := [⟨beforeComma, [' '], innerPairs⟩]

theorem spells_ofTriangles {beforeComma : List Char} (h : Text.IsSpace beforeComma) :
    (ofTriangles beforeComma).Spells outerTriangle [innerTriangle] where
  keyword := by
    change List.Forall₂ _ "POLYGON".toList _
    decide
  gap := List.forall_mem_nil _
  pairs := spells_triangles.1
  tail := List.forall_mem_nil _
  holes := .cons ⟨h, List.forall_mem_singleton.mpr rfl, spells_triangles.2⟩ .nil

/-- The hole is left out behind `),` and joined behind `) ,`. -/
theorem readRing_leavesOutHoles_ofTriangles :
    (ofTriangles []).text = "POLYGON((0 0, 10 0, 10 10, 0 0), (1 1, 2 1, 2 2, 1 1))" ∧
      (ofTriangles []).Spells outerTriangle [innerTriangle] ∧
      (ofTriangles [' ']).Spells outerTriangle [innerTriangle] ∧ outerTriangle ≠ [] ∧
      readRing (ofTriangles []).text = .ok outerTriangle ∧
      readRing (ofTriangles [' ']).text = .ok (outerTriangle ++ innerTriangle) := by
  have hne : outerTriangle ≠ [] := List.cons_ne_nil _ _
  have hclose := spells_ofTriangles (by decide : Text.IsSpace [])
  have hapart := spells_ofTriangles (by decide : Text.IsSpace [' '])
  refine ⟨by decide, hclose, hapart, hne, ?_, ?_⟩
  · exact (readRing_leavesOutHoles hclose hne).1.mpr (by decide)
  · refine ((readRing_leavesOutHoles hapart hne).2 _).mpr ⟨?_, rfl⟩
    exact List.forall_mem_singleton.mpr ⟨_, rfl, rfl⟩

/-- White space in front of a comma lets the points of a hole into the ring. -/
theorem not_forall_readRing_leavesOutHoles :
    ¬ ∀ (w : HoledPolygon) (ring : List (Point Degrees)) (holes : List (List (Point Degrees))),
      w.Spells ring holes → ring ≠ [] → holes ≠ [] → readRing w.text = .ok ring := by
  intro h
  have hapart := spells_ofTriangles (by decide : Text.IsSpace [' '])
  have hne : outerTriangle ≠ [] := List.cons_ne_nil _ _
  have hjoined := (hapart.readRing_eq_ring_iff hne).mp (h _ _ _ hapart hne (List.cons_ne_nil _ _))
  exact List.cons_ne_nil _ _ hjoined

end HoledPolygon

end PlaceSearch.Wkt
