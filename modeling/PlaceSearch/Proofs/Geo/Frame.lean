-- SUMMARY: What the reader of a polygon text takes for its body: all from the first opening up to the last closing parentheses.
import PlaceSearch.Proofs.Geo.Layout

/-!
# The frame of a polygon text

The reader looks for the keyword with two parentheses behind it, anywhere in the text.
It starts at the first such place and reads up to the last two closing parentheses.
What stands around these is not looked at. A text has at most one such frame, and it
reads as a body exactly if it has one.
-/

namespace PlaceSearch.Wkt

/-! ## The opening -/

/-- Every character is its capital letter, or the small letter of that. -/
theorem eq_toUpper_or_eq_toLower (c : Char) : c = c.toUpper ∨ c = c.toUpper.toLower := by
  by_cases h : 'a'.val ≤ c.val ∧ c.val ≤ 'z'.val
  · right
    have hval : c.toUpper.val = c.val + ('A'.val - 'a'.val) := by
      unfold Char.toUpper
      rw [dif_pos h]
    have hlow : 97 ≤ c.toNat := h.1
    have hhigh : c.toNat ≤ 122 := h.2
    have hupper : c.toUpper.val ≥ 'A'.val ∧ c.toUpper.val ≤ 'Z'.val := by
      rw [hval]
      simp [UInt32.le_iff_toNat_le]
      omega
    have hback : c.toUpper.toLower.val = c.toUpper.val + ('a'.val - 'A'.val) := by
      unfold Char.toLower
      rw [dif_pos hupper]
    apply Char.ext
    rw [hback, hval]
    simp [UInt32.add_assoc]
  · left
    unfold Char.toUpper
    rw [dif_neg h]

theorem exists_of_dropWord {word cs rest : List Char} (h : dropWord word cs = some rest) :
    ∃ keyword, cs = keyword ++ rest ∧ IsWord word keyword := by
  induction word generalizing cs with
  | nil => exact ⟨[], Option.some.inj h, .nil⟩
  | cons letter word ih =>
    cases cs with
    | nil => cases h
    | cons c cs =>
      obtain ⟨rfl, hrest⟩ := Option.ite_none_right_eq_some.mp h
      obtain ⟨keyword, rfl, hkeyword⟩ := ih hrest
      exact ⟨c :: keyword, rfl, .cons (eq_toUpper_or_eq_toLower c) hkeyword⟩

theorem afterOpening?_eq_some_iff {cs body : List Char} :
    afterOpening? cs = some body ↔
      ∃ keyword gap, cs = keyword ++ (gap ++ '(' :: '(' :: body) ∧ IsKeyword keyword ∧
        Text.IsSpace gap := by
  constructor
  · intro h
    obtain ⟨rest, hrest, hbody⟩ := Option.bind_eq_some_iff.mp h
    obtain ⟨keyword, rfl, hkeyword⟩ := exists_of_dropWord hrest
    split at hbody
    · next hopening =>
      cases hbody
      refine ⟨keyword, rest.takeWhile Text.isBlank, ?_, hkeyword,
        List.all_eq_true.mp List.all_takeWhile⟩
      rw [← hopening, List.takeWhile_append_dropWhile]
    · cases hbody
  · rintro ⟨keyword, gap, rfl, hkeyword, hgap⟩
    exact afterOpening?_append hkeyword hgap body

/-- A polygon may begin at the front of the text. -/
def Opens (cs : List Char) : Prop :=
  ∃ keyword gap body, cs = keyword ++ (gap ++ '(' :: '(' :: body) ∧ IsKeyword keyword ∧
    Text.IsSpace gap

theorem afterOpening?_eq_none_iff {cs : List Char} : afterOpening? cs = none ↔ ¬ Opens cs := by
  rw [Option.eq_none_iff_forall_ne_some]
  constructor
  · rintro h ⟨keyword, gap, body, hopens⟩
    exact h body (afterOpening?_eq_some_iff.mpr ⟨keyword, gap, hopens⟩)
  · intro h body hbody
    obtain ⟨keyword, gap, hopens⟩ := afterOpening?_eq_some_iff.mp hbody
    exact h ⟨keyword, gap, body, hopens⟩

/-- A polygon begins with a letter. -/
theorem not_opens_of_isBlank {c : Char} (hc : Text.isBlank c = true) (cs : List Char) :
    ¬ Opens (c :: cs) := by
  rintro ⟨keyword, gap, body, hcs, hkeyword, -⟩
  obtain ⟨letter, rest, hletter, -, rfl⟩ := List.forall₂_cons_right_iff.mp hkeyword
  obtain ⟨rfl, -⟩ := List.cons.inj hcs
  obtain rfl | rfl := hletter
  · exact absurd hc (by decide)
  · exact absurd hc (by decide)

/-- What is found is behind the first place where a polygon may begin. -/
theorem findOpening?_eq_some_iff {cs body : List Char} :
    findOpening? cs = some body ↔
      ∃ front opening, cs = front ++ opening ∧ afterOpening? opening = some body ∧
        ∀ n < front.length, ¬ Opens (cs.drop n) := by
  induction cs with
  | nil =>
    constructor
    · intro h
      cases h
    · rintro ⟨front, opening, hcs, hopening, -⟩
      rw [(List.nil_eq_append_iff.mp hcs).2] at hopening
      cases hopening
  | cons c cs ih =>
    rw [findOpening?]
    cases hfirst : afterOpening? (c :: cs) with
    | some found =>
      constructor
      · intro h
        exact ⟨[], c :: cs, rfl, hfirst.trans h, fun n hn => absurd hn (Nat.not_lt_zero n)⟩
      · rintro ⟨front, opening, hcs, hopening, hnone⟩
        cases front with
        | nil =>
          rw [← hopening, ← List.nil_append opening, ← hcs, hfirst]
          rfl
        | cons d front =>
          have hclosed := afterOpening?_eq_none_iff.mpr (hnone 0 (Nat.succ_pos _))
          rw [List.drop_zero, hfirst] at hclosed
          cases hclosed
    | none =>
      have hclosed := afterOpening?_eq_none_iff.mp hfirst
      change findOpening? cs = some body ↔ _
      rw [ih]
      constructor
      · rintro ⟨front, opening, rfl, hopening, hnone⟩
        refine ⟨c :: front, opening, rfl, hopening, ?_⟩
        intro n hn
        cases n with
        | zero => exact hclosed
        | succ n => exact hnone n (Nat.lt_of_succ_lt_succ hn)
      · rintro ⟨front, opening, hcs, hopening, hnone⟩
        cases front with
        | nil =>
          rw [← List.nil_append opening, ← hcs, hfirst] at hopening
          cases hopening
        | cons d front =>
          obtain ⟨rfl, rfl⟩ := List.cons.inj hcs
          exact ⟨front, opening, rfl, hopening, fun n hn => hnone (n + 1) (Nat.succ_lt_succ hn)⟩

/-! ## The closing -/

theorem closing_prefix_cons_iff {c : Char} {rest : List Char} :
    [')', ')'] <+: c :: rest ↔ c = ')' ∧ rest.head? = some ')' := by
  rw [List.cons_prefix_cons, eq_comm]
  cases rest with
  | nil => simp
  | cons d rest => simp [List.cons_prefix_cons, eq_comm]

theorem beforeLastClosing?_eq_none_iff {cs : List Char} :
    beforeLastClosing? cs = none ↔ ¬ [')', ')'] <:+: cs := by
  induction cs with
  | nil => simp [beforeLastClosing?]
  | cons c cs ih =>
    rw [beforeLastClosing?, List.infix_cons_iff, not_or, ← ih, closing_prefix_cons_iff]
    cases beforeLastClosing? cs with
    | some body => simp
    | none => simp

/-- What is kept ends at the last two closing parentheses. -/
theorem beforeLastClosing?_eq_some_iff {cs body : List Char} :
    beforeLastClosing? cs = some body ↔
      ∃ behind, cs = body ++ ')' :: ')' :: behind ∧ ¬ [')', ')'] <:+: ')' :: behind := by
  -- whether the two parentheses at the front are the last is known only from the rest
  induction cs generalizing body with
  | nil => simp [beforeLastClosing?]
  | cons c cs ih =>
    rw [beforeLastClosing?]
    cases hrest : beforeLastClosing? cs with
    | some found =>
      constructor
      · intro h
        obtain ⟨behind, rfl, hlast⟩ := ih.mp hrest
        cases h
        exact ⟨behind, rfl, hlast⟩
      · rintro ⟨behind, hcs, hlast⟩
        cases body with
        | nil =>
          obtain ⟨-, rfl⟩ := List.cons.inj hcs
          rw [beforeLastClosing?_eq_none_iff.mpr hlast] at hrest
          cases hrest
        | cons d body =>
          obtain ⟨rfl, rfl⟩ := List.cons.inj hcs
          rw [ih.mpr ⟨behind, rfl, hlast⟩] at hrest
          cases hrest
          rfl
    | none =>
      have hlast := beforeLastClosing?_eq_none_iff.mp hrest
      constructor
      · intro h
        obtain ⟨⟨rfl, hhead⟩, hbody⟩ := Option.ite_none_right_eq_some.mp h
        obtain ⟨behind, rfl⟩ := List.head?_eq_some_iff.mp hhead
        cases hbody
        exact ⟨behind, rfl, hlast⟩
      · rintro ⟨behind, hcs, hbehind⟩
        cases body with
        | nil =>
          obtain ⟨rfl, rfl⟩ := List.cons.inj hcs
          exact if_pos ⟨rfl, rfl⟩
        | cons d body =>
          obtain ⟨rfl, rfl⟩ := List.cons.inj hcs
          rw [ih.mpr ⟨behind, rfl, hbehind⟩] at hrest
          cases hrest

/-! ## The first ring -/

theorem firstRing_of_separator {cs : List Char} (h : [')', ','] <+: cs) : firstRing cs = [] := by
  obtain ⟨more, rfl⟩ := h
  rfl

theorem firstRing_cons {c : Char} {cs : List Char} (h : ¬ [')', ','] <+: c :: cs) :
    firstRing (c :: cs) = c :: firstRing cs := by
  rw [firstRing]
  rintro more rfl rfl
  exact h (List.prefix_append [')', ','] more)

/-- A text goes on behind its first ring with a separator, or not at all. -/
theorem exists_firstRing_append (cs : List Char) :
    ∃ rest, cs = firstRing cs ++ rest ∧ ¬ [')', ','] <:+: firstRing cs ∧
      (rest = [] ∨ [')', ','] <+: rest) := by
  induction cs with
  | nil => exact ⟨[], rfl, by decide, Or.inl rfl⟩
  | cons c cs ih =>
    by_cases hprefix : [')', ','] <+: c :: cs
    · rw [firstRing_of_separator hprefix]
      exact ⟨c :: cs, rfl, by decide, Or.inr hprefix⟩
    · obtain ⟨rest, hcs, hring, hrest⟩ := ih
      rw [firstRing_cons hprefix]
      refine ⟨rest, by rw [List.cons_append, ← hcs], ?_, hrest⟩
      rw [List.infix_cons_iff, not_or]
      refine ⟨fun hring => hprefix ?_, hring⟩
      rw [hcs, ← List.cons_append]
      exact hring.trans (List.prefix_append _ _)

/-- Up to the separator there is one ring. -/
theorem firstRing_append_rest {ring rest : List Char} (hring : ¬ [')', ','] <:+: ring)
    (hrest : rest = [] ∨ [')', ','] <+: rest) : firstRing (ring ++ rest) = ring := by
  induction ring with
  | nil =>
    obtain rfl | hrest := hrest
    · rfl
    · exact firstRing_of_separator hrest
  | cons c ring ih =>
    rw [List.infix_cons_iff, not_or] at hring
    rw [List.cons_append, firstRing_cons, ih hring.2]
    -- a separator cannot lie across the end of the ring
    rintro ⟨more, hmore⟩
    obtain ⟨rfl, htail⟩ := List.cons.inj hmore
    cases ring with
    | cons d ring =>
      obtain ⟨rfl, -⟩ := List.cons.inj htail
      exact hring.1 (List.prefix_append [')', ','] ring)
    | nil =>
      obtain rfl | ⟨tail, rfl⟩ := hrest
      · cases htail
      · exact absurd (List.cons.inj htail).1 (by decide)

/-! ## Frames -/

/-- A text in five parts: what the reader passes over, the keyword and the white space behind it,
    the body between two parentheses on either side, and what is passed over behind them. -/
structure Frame where
  front : List Char
  keyword : List Char
  gap : List Char
  body : List Char
  behind : List Char

namespace Frame

def text (f : Frame) : List Char :=
  f.front ++ (f.keyword ++ (f.gap ++ '(' :: '(' :: (f.body ++ ')' :: ')' :: f.behind)))

/-- No polygon may begin further in front, and none ends further behind. -/
structure IsOutermost (f : Frame) : Prop where
  keyword : IsKeyword f.keyword
  gap : Text.IsSpace f.gap
  first : ∀ n < f.front.length, ¬ Opens (f.text.drop n)
  last : ¬ [')', ')'] <:+: ')' :: f.behind

variable {f g : Frame}

theorem IsOutermost.opens (h : f.IsOutermost) : Opens (f.text.drop f.front.length) :=
  ⟨f.keyword, f.gap, _, List.drop_left, h.keyword, h.gap⟩

theorem IsOutermost.findOpening?_text (h : f.IsOutermost) :
    findOpening? f.text = some (f.body ++ ')' :: ')' :: f.behind) :=
  findOpening?_eq_some_iff.mpr ⟨f.front, _, rfl,
    afterOpening?_eq_some_iff.mpr ⟨f.keyword, f.gap, rfl, h.keyword, h.gap⟩, h.first⟩

theorem IsOutermost.length_front_le (hf : f.IsOutermost) (hg : g.IsOutermost)
    (h : f.text = g.text) : f.front.length ≤ g.front.length := by
  by_contra hlt
  apply hf.first g.front.length (Nat.lt_of_not_le hlt)
  rw [h]
  exact hg.opens

/-- A text has at most one frame. -/
theorem IsOutermost.eq_parts (hf : f.IsOutermost) (hg : g.IsOutermost) (h : f.text = g.text) :
    f.front = g.front ∧ f.body = g.body ∧ f.behind = g.behind := by
  have hlength := Nat.le_antisymm (hf.length_front_le hg h) (hg.length_front_le hf h.symm)
  have hopening := hf.findOpening?_text
  rw [h, hg.findOpening?_text] at hopening
  have hclosing := Option.some.inj hopening
  have hbody : beforeLastClosing? (f.body ++ ')' :: ')' :: f.behind) = some f.body :=
    beforeLastClosing?_eq_some_iff.mpr ⟨f.behind, rfl, hf.last⟩
  rw [← hclosing, beforeLastClosing?_eq_some_iff.mpr ⟨g.behind, rfl, hg.last⟩] at hbody
  have hsame := Option.some.inj hbody
  refine ⟨(List.append_inj h hlength).1, hsame.symm, ?_⟩
  rw [← hsame] at hclosing
  simpa using (List.append_cancel_left hclosing).symm

end Frame

/-- A text has a body exactly if it has a frame whose body is not blank. -/
theorem body?_eq_some_iff {text : String} {body : List Char} :
    body? text = some body ↔
      Text.trimChars body ≠ [] ∧ ∃ f : Frame, f.text = text.toList ∧ f.body = body ∧ f.IsOutermost := by
  rw [body?, Option.filter_eq_some_iff, Option.bind_eq_some_iff]
  constructor
  · rintro ⟨⟨rest, hopening, hclosing⟩, hblank⟩
    obtain ⟨behind, rfl, hlast⟩ := beforeLastClosing?_eq_some_iff.mp hclosing
    obtain ⟨front, opening, htext, hafter, hfirst⟩ := findOpening?_eq_some_iff.mp hopening
    obtain ⟨keyword, gap, rfl, hkeyword, hgap⟩ := afterOpening?_eq_some_iff.mp hafter
    refine ⟨by simpa using hblank, ⟨front, keyword, gap, body, behind⟩, htext.symm, rfl, hkeyword,
      hgap, ?_, hlast⟩
    rwa [htext] at hfirst
  · rintro ⟨hblank, f, htext, rfl, hf⟩
    rw [← htext]
    exact ⟨⟨_, hf.findOpening?_text, beforeLastClosing?_eq_some_iff.mpr ⟨f.behind, rfl, hf.last⟩⟩,
      by simpa using hblank⟩

end PlaceSearch.Wkt
