-- SUMMARY: How a masked condition is grouped: parentheses first, then AND, then OR.
import Mathlib.Data.List.Infix
import PlaceSearch.Proofs.Sql.Mask

/-!
# Grouping of conditions

A masked condition is grouped as a query engine groups it. Parentheses bind
first, so a space inside them ends no word. Of the words outside, `OR` separates
alternatives, and within an alternative `AND` separates factors, except for the
`AND` that belongs to a `BETWEEN`.

`Conjoins` says which factors a condition consists of. Joining such conditions
with `AND` puts their factors in a row: by `Conjoins.intercalate`, no condition
has to know its neighbors.
-/

namespace PlaceSearch.Sql

/-! ## Depth of parentheses -/

/-- How a mark changes the depth. -/
def Mark.nesting : Mark → Int
  | .char '(' => 1
  | .char ')' => -1
  | _ => 0

/-- The depth behind some marks. -/
def depth : List Mark → Int
  | [] => 0
  | m :: rest => m.nesting + depth rest

@[simp] theorem depth_nil : depth [] = 0 := rfl

@[simp] theorem depth_cons (m : Mark) (ms : List Mark) :
    depth (m :: ms) = m.nesting + depth ms := rfl

@[simp] theorem depth_append (a b : List Mark) : depth (a ++ b) = depth a + depth b := by
  induction a with
  | nil => simp
  | cons m a ih => rw [List.cons_append, depth_cons, depth_cons, ih, Int.add_assoc]

/-- The depth never falls below zero and is zero at the end. -/
structure Balanced (ms : List Mark) : Prop where
  nonneg : ∀ front, front <+: ms → 0 ≤ depth front
  closed : depth ms = 0

instance (ms : List Mark) : Decidable (Balanced ms) :=
  decidable_of_iff ((∀ front ∈ ms.inits, 0 ≤ depth front) ∧ depth ms = 0)
    ⟨fun h => ⟨fun front hfront => h.1 front ((List.mem_inits _ _).mpr hfront), h.2⟩,
      fun h => ⟨fun front hfront => h.nonneg front ((List.mem_inits _ _).mp hfront), h.closed⟩⟩

/-- A prefix of two parts ends in the first one or in the second one. -/
theorem prefix_append_cases {α : Type} {front a b : List α} (h : front <+: a ++ b) :
    front <+: a ∨ ∃ tail, tail <+: b ∧ front = a ++ tail := by
  rcases List.prefix_or_prefix_of_prefix h (List.prefix_append a b) with h' | ⟨tail, rfl⟩
  · exact .inl h'
  · exact .inr ⟨tail, (List.prefix_append_right_inj a).mp h, rfl⟩

namespace Balanced

/-- Without parentheses the depth stays zero. -/
theorem flat {ms : List Mark} (h : ∀ m ∈ ms, m.nesting = 0) : Balanced ms := by
  have hzero : ∀ front : List Mark, front ⊆ ms → depth front = 0 := by
    intro front
    induction front with
    | nil => exact fun _ => rfl
    | cons m rest ih =>
      intro hsub
      rw [depth_cons, h m (hsub (List.mem_cons_self ..)),
        ih fun x hx => hsub (List.mem_cons_of_mem _ hx), Int.add_zero]
  exact ⟨fun front hfront => Int.le_of_eq (hzero front hfront.subset).symm,
    hzero ms (List.Subset.refl ms)⟩

theorem nil : Balanced [] := flat (by simp)

theorem append {a b : List Mark} (ha : Balanced a) (hb : Balanced b) : Balanced (a ++ b) := by
  refine ⟨fun front hfront => ?_, by rw [depth_append, ha.closed, hb.closed, Int.add_zero]⟩
  rcases prefix_append_cases hfront with hfront | ⟨tail, htail, rfl⟩
  · exact ha.nonneg front hfront
  · rw [depth_append, ha.closed, Int.zero_add]
    exact hb.nonneg tail htail

theorem intercalate {separator : List Mark} {parts : List (List Mark)} (hsep : Balanced separator)
    (h : ∀ p ∈ parts, Balanced p) : Balanced (separator.intercalate parts) :=
  intercalate_of_append nil append hsep h

end Balanced

/-! ## Words outside parentheses -/

/-- The parts between spaces outside parentheses, from some depth on. -/
def splitWords (d : Int) : List Mark → List (List Mark)
  | [] => [[]]
  | m :: rest =>
    if m = .char ' ' ∧ d = 0 then [] :: splitWords d rest
    else (splitWords (d + m.nesting) rest).modifyHead (m :: ·)

/-- The words of a condition; a pair of parentheses and all between them are in
    one word. -/
def topWords (ms : List Mark) : List (List Mark) := splitWords 0 ms

/-- A balanced text in which every space is inside parentheses. -/
structure IsWord (w : List Mark) : Prop extends Balanced w where
  inside : ∀ front back, w = front ++ .char ' ' :: back → depth front ≠ 0

/-- Words with one space between neighbors. -/
def sentence (ws : List (List Mark)) : List Mark := [Mark.char ' '].intercalate ws

/-- What holds no space outside parentheses belongs to the first word. -/
theorem splitWords_append {d : Int} {w : List Mark}
    (h : ∀ front back, w = front ++ .char ' ' :: back → d + depth front ≠ 0) (rest : List Mark) :
    splitWords d (w ++ rest) = (splitWords (d + depth w) rest).modifyHead (w ++ ·) := by
  induction w generalizing d with
  | nil => cases hsplit : splitWords d rest <;> simp [hsplit]
  | cons m w ih =>
    have hspace : ¬ (m = .char ' ' ∧ d = 0) := by
      rintro ⟨rfl, rfl⟩
      exact h [] w rfl rfl
    have htail : ∀ front back, w = front ++ .char ' ' :: back →
        d + m.nesting + depth front ≠ 0 := by
      intro front back heq
      have := h (m :: front) back (by rw [heq, List.cons_append])
      rwa [depth_cons, ← Int.add_assoc] at this
    rw [List.cons_append, splitWords, if_neg hspace, ih htail, depth_cons, ← Int.add_assoc,
      List.modifyHead_modifyHead]
    rfl

namespace IsWord

theorem topWords_eq {w : List Mark} (h : IsWord w) : topWords w = [w] := by
  have hsplit := splitWords_append (d := 0) (by simpa using h.inside) []
  simpa [topWords, splitWords] using hsplit

theorem topWords_append {w : List Mark} (h : IsWord w) (rest : List Mark) :
    topWords (w ++ .char ' ' :: rest) = w :: topWords rest := by
  have hsplit := splitWords_append (d := 0) (by simpa using h.inside) (.char ' ' :: rest)
  simpa [topWords, splitWords, h.closed] using hsplit

/-- A text without spaces and parentheses. -/
theorem flat {w : List Mark} (h : ∀ m ∈ w, m.nesting = 0 ∧ m ≠ .char ' ') : IsWord w := by
  refine ⟨.flat fun m hm => (h m hm).1, ?_⟩
  rintro front back rfl
  exact absurd rfl (h (.char ' ') (by simp)).2

theorem append {a b : List Mark} (ha : IsWord a) (hb : IsWord b) : IsWord (a ++ b) := by
  refine ⟨ha.toBalanced.append hb.toBalanced, fun front back heq => ?_⟩
  rcases List.append_eq_append_iff.mp heq with ⟨front', rfl, hfront⟩ | ⟨rest, hfront, hrest⟩
  · rw [depth_append, ha.closed, Int.zero_add]
    exact hb.inside front' back hfront
  · cases rest with
    | nil => exact absurd rfl (hb.inside [] back hrest.symm)
    | cons m rest =>
      obtain ⟨rfl, -⟩ := List.cons.inj hrest
      exact ha.inside front rest hfront

/-- Balanced text between parentheses. -/
theorem parens {ms : List Mark} (h : Balanced ms) : IsWord (.char '(' :: (ms ++ [.char ')'])) := by
  have hopen : Mark.nesting (.char '(') = 1 := rfl
  have hclose : Mark.nesting (.char ')') = -1 := rfl
  refine ⟨⟨fun front hfront => ?_, by simp [h.closed, hopen, hclose]⟩, fun front back heq => ?_⟩
  · rcases List.prefix_cons_iff.mp hfront with rfl | ⟨front, rfl, hinner⟩
    · exact Int.le_refl 0
    · rw [depth_cons, hopen]
      rcases prefix_append_cases hinner with hinner | ⟨tail, htail, rfl⟩
      · have := h.nonneg front hinner
        omega
      · rw [depth_append, h.closed]
        rcases List.prefix_cons_iff.mp htail with rfl | ⟨_, rfl, hnil⟩
        · decide
        · rw [List.prefix_nil.mp hnil]
          decide
  · cases front with
    | nil => cases heq
    | cons m front =>
      obtain ⟨rfl, hinner⟩ := List.cons.inj heq
      have hfront : front <+: ms := by
        rcases List.append_eq_append_iff.mp hinner with ⟨front', rfl, hclose'⟩ | ⟨rest, rfl, -⟩
        · cases front' with
          | nil => cases hclose'
          | cons c front' => simp at hclose'
        · exact List.prefix_append front rest
      have := h.nonneg front hfront
      rw [depth_cons, hopen]
      omega

end IsWord

@[simp] theorem sentence_singleton (w : List Mark) : sentence [w] = w := by
  simp [sentence]

@[simp] theorem sentence_cons_cons (w v : List Mark) (ws : List (List Mark)) :
    sentence (w :: v :: ws) = w ++ .char ' ' :: sentence (v :: ws) := by
  simp [sentence, List.intercalate_cons_cons]

/-- The words of a sentence are found again. -/
theorem topWords_sentence {ws : List (List Mark)} (hne : ws ≠ []) (h : ∀ w ∈ ws, IsWord w) :
    topWords (sentence ws) = ws := by
  induction ws with
  | nil => exact absurd rfl hne
  | cons w rest ih =>
    have hw := h w (List.mem_cons_self ..)
    cases rest with
    | nil => rw [sentence_singleton, hw.topWords_eq]
    | cons v rest =>
      rw [sentence_cons_cons, hw.topWords_append,
        ih (List.cons_ne_nil _ _) fun x hx => h x (List.mem_cons_of_mem _ hx)]

theorem balanced_sentence {ws : List (List Mark)} (h : ∀ w ∈ ws, IsWord w) :
    Balanced (sentence ws) :=
  .intercalate (.flat (by decide)) fun w hw => (h w hw).toBalanced

/-- Two joined parts have one more separator between them. -/
theorem intercalate_append_of_ne_nil {α : Type} {separator : List α} {xs ys : List (List α)}
    (hxs : xs ≠ []) (hys : ys ≠ []) :
    separator.intercalate (xs ++ ys) =
      separator.intercalate xs ++ separator ++ separator.intercalate ys := by
  obtain ⟨y, ys, rfl⟩ := List.exists_cons_of_ne_nil hys
  induction xs with
  | nil => exact absurd rfl hxs
  | cons x rest ih =>
    cases rest with
    | nil => simp [List.intercalate_cons_cons]
    | cons x' rest =>
      have htail := ih (List.cons_ne_nil _ _)
      simp only [List.cons_append, List.intercalate_cons_cons, List.append_assoc] at htail ⊢
      rw [htail]

/-- The first of joined parts come first. -/
theorem intercalate_prefix_append {α : Type} (separator : List α) (xs ys : List (List α)) :
    separator.intercalate xs <+: separator.intercalate (xs ++ ys) := by
  by_cases hxs : xs = []
  · rw [hxs]
    exact List.nil_prefix
  · by_cases hys : ys = []
    · have heq : separator.intercalate (xs ++ ys) = separator.intercalate xs := by
        rw [hys, List.append_nil]
      exact heq ▸ List.prefix_rfl
    · rw [intercalate_append_of_ne_nil hxs hys, List.append_assoc]
      exact List.prefix_append _ _

theorem sentence_append {ws vs : List (List Mark)} (hws : ws ≠ []) (hvs : vs ≠ []) :
    sentence (ws ++ vs) = sentence ws ++ [.char ' '] ++ sentence vs :=
  intercalate_append_of_ne_nil hws hvs

/-! ## Factors and alternatives -/

/-- The word between alternatives. -/
def orWord : List Mark := Mark.ofString "OR"

/-- The word between factors. -/
def andWord : List Mark := Mark.ofString "AND"

/-- The word behind which one `AND` separates two bounds. -/
def betweenWord : List Mark := Mark.ofString "BETWEEN"

/-- The parts between `AND`s; `pending` says that the next `AND` separates bounds. -/
def splitFactors (pending : Bool) : List (List Mark) → List (List (List Mark))
  | [] => [[]]
  | w :: ws =>
    if w = andWord ∧ pending = false then [] :: splitFactors false ws
    else (splitFactors (w == betweenWord || pending && w != andWord) ws).modifyHead (w :: ·)

/-- The factors that some words consist of. -/
def factors (ws : List (List Mark)) : List (List (List Mark)) := splitFactors false ws

/-- A condition as its alternatives, each as its factors. -/
def grouped (ms : List Mark) : List (List (List (List Mark))) :=
  ((topWords ms).splitOn orWord).map factors

/-- Words that stand together, whatever follows them. -/
structure IsFactor (f : List (List Mark)) : Prop where
  ne_nil : f ≠ []
  isWord : ∀ w ∈ f, IsWord w
  orWord_notMem : orWord ∉ f
  unsplit : ∀ rest, factors (f ++ rest) = (factors rest).modifyHead (f ++ ·)

/-- A word that joins nothing. -/
structure IsTerm (w : List Mark) : Prop extends IsWord w where
  ne_orWord : w ≠ orWord
  ne_andWord : w ≠ andWord
  ne_betweenWord : w ≠ betweenWord

@[simp] theorem splitFactors_andWord (ws : List (List Mark)) :
    splitFactors false (andWord :: ws) = [] :: splitFactors false ws := rfl

@[simp] theorem splitFactors_betweenWord (pending : Bool) (ws : List (List Mark)) :
    splitFactors pending (betweenWord :: ws) =
      (splitFactors true ws).modifyHead (betweenWord :: ·) := rfl

/-- The `AND` of a `BETWEEN` separates no factors. -/
@[simp] theorem splitFactors_andWord_pending (ws : List (List Mark)) :
    splitFactors true (andWord :: ws) = (splitFactors false ws).modifyHead (andWord :: ·) := rfl

theorem IsTerm.splitFactors_cons {w : List Mark} (h : IsTerm w) (pending : Bool)
    (ws : List (List Mark)) :
    splitFactors pending (w :: ws) = (splitFactors pending ws).modifyHead (w :: ·) := by
  rw [splitFactors, if_neg fun hand => h.ne_andWord hand.1, beq_false_of_ne h.ne_betweenWord,
    bne_iff_ne.mpr h.ne_andWord, Bool.false_or, Bool.and_true]

/-- The first marks of the words that join. -/
def joiningHeads : List Mark := [.char 'O', .char 'A', .char 'B']

/-- The text starts like no word that joins. -/
def startsTerm (w : List Mark) : Bool := w.head?.any fun m => !joiningHeads.contains m

theorem startsTerm_append {a : List Mark} (h : startsTerm a = true) (b : List Mark) :
    startsTerm (a ++ b) = true := by
  cases a with
  | nil => cases h
  | cons m a => exact h

theorem IsWord.isTerm {w : List Mark} (h : IsWord w) (hstart : startsTerm w = true) :
    IsTerm w where
  toIsWord := h
  ne_orWord := by rintro rfl; revert hstart; decide
  ne_andWord := by rintro rfl; revert hstart; decide
  ne_betweenWord := by rintro rfl; revert hstart; decide

/-- A literal is a word that joins nothing. -/
theorem isTerm_literal (q : Quote) : IsTerm [.literal q] :=
  (IsWord.flat (by simp [Mark.nesting])).isTerm (by cases q <;> decide)

/-- A name or an operator: no spaces, no parentheses, and no start of a word that joins. -/
def isPlain (w : List Mark) : Bool :=
  startsTerm w && w.all fun m => m.nesting == 0 && m != .char ' '

theorem isTerm_of_isPlain {w : List Mark} (h : isPlain w = true) : IsTerm w := by
  rw [isPlain, Bool.and_eq_true, List.all_eq_true] at h
  refine (IsWord.flat fun m hm => ?_).isTerm h.1
  simpa using h.2 m hm

/-- A name with something in parentheses behind it is one word. -/
theorem isTerm_call {name : List Mark} (hname : isPlain name = true) {inner : List Mark}
    (hinner : Balanced inner) : IsTerm (name ++ .char '(' :: (inner ++ [.char ')'])) := by
  have hstart : startsTerm name = true := (Bool.and_eq_true _ _ ▸ hname).1
  exact ((isTerm_of_isPlain hname).toIsWord.append (.parens hinner)).isTerm
    (startsTerm_append hstart _)

namespace IsFactor

/-- Words that join nothing. -/
theorem terms {ws : List (List Mark)} (hne : ws ≠ []) (h : ∀ w ∈ ws, IsTerm w) :
    IsFactor ws where
  ne_nil := hne
  isWord w hw := (h w hw).toIsWord
  orWord_notMem hor := (h orWord hor).ne_orWord rfl
  unsplit rest := by
    clear hne
    induction ws with
    | nil => cases hsplit : factors rest <;> simp [hsplit]
    | cons w ws ih =>
      have htail := ih fun v hv => h v (List.mem_cons_of_mem _ hv)
      rw [factors] at htail ⊢
      rw [List.cons_append, (h w (List.mem_cons_self ..)).splitFactors_cons, htail,
        List.modifyHead_modifyHead]
      rfl

/-- Two values with a word between them. -/
theorem relation {left word right : List Mark} (hleft : IsTerm left) (hword : IsTerm word)
    (hright : IsTerm right) : IsFactor [left, word, right] :=
  terms (List.cons_ne_nil _ _) (by simpa using ⟨hleft, hword, hright⟩)

/-- A value between two bounds. -/
theorem between {value low high : List Mark} (hvalue : IsTerm value) (hlow : IsTerm low)
    (hhigh : IsTerm high) : IsFactor [value, betweenWord, low, andWord, high] where
  ne_nil := List.cons_ne_nil _ _
  isWord := by
    have hbetween : IsWord betweenWord := .flat (by decide)
    have hand : IsWord andWord := .flat (by decide)
    simpa using ⟨hvalue.toIsWord, hbetween, hlow.toIsWord, hand, hhigh.toIsWord⟩
  orWord_notMem := by
    have hbetween : orWord ≠ betweenWord := by decide
    have hand : orWord ≠ andWord := by decide
    simpa using ⟨hvalue.ne_orWord.symm, hbetween, hlow.ne_orWord.symm, hand, hhigh.ne_orWord.symm⟩
  unsplit rest := by
    simp only [factors, List.cons_append, List.nil_append, hvalue.splitFactors_cons,
      hlow.splitFactors_cons, hhigh.splitFactors_cons, splitFactors_betweenWord,
      splitFactors_andWord_pending, List.modifyHead_modifyHead]
    rfl

end IsFactor

/-- Factors joined with `AND` are found again. -/
theorem factors_intercalate {fs : List (List (List Mark))} (hne : fs ≠ [])
    (h : ∀ f ∈ fs, IsFactor f) : factors ([andWord].intercalate fs) = fs := by
  induction fs with
  | nil => exact absurd rfl hne
  | cons f rest ih =>
    have hf := h f (List.mem_cons_self ..)
    cases rest with
    | nil =>
      have := hf.unsplit []
      simpa [factors, splitFactors] using this
    | cons g rest =>
      have htail := ih (List.cons_ne_nil _ _) fun x hx => h x (List.mem_cons_of_mem _ hx)
      rw [List.intercalate_cons_cons, List.append_assoc, hf.unsplit, List.singleton_append, factors,
        splitFactors_andWord, ← factors, htail]
      simp

/-! ## Conjunctions -/

/-- The condition consists of these factors, joined with `AND`. -/
structure Conjoins (ms : List Mark) (fs : List (List (List Mark))) : Prop where
  ne_nil : fs ≠ []
  isFactor : ∀ f ∈ fs, IsFactor f
  eq_sentence : ms = sentence ([andWord].intercalate fs)

/-- A word of joined factors joins them or is in one of them. -/
theorem mem_intercalate_andWord {fs : List (List (List Mark))} {w : List Mark}
    (h : w ∈ [andWord].intercalate fs) : w = andWord ∨ ∃ f ∈ fs, w ∈ f :=
  forall_mem_intercalate (P := fun w => w = andWord ∨ ∃ f ∈ fs, w ∈ f)
    (fun _ hw => .inl (List.mem_singleton.mp hw)) (fun f hf _ hw => .inr ⟨f, hf, hw⟩) w h

theorem intercalate_andWord_ne_nil {fs : List (List (List Mark))} (hne : fs ≠ [])
    (h : ∀ f ∈ fs, IsFactor f) : [andWord].intercalate fs ≠ [] := by
  obtain ⟨f, rest, rfl⟩ := List.exists_cons_of_ne_nil hne
  have hf := (h f (List.mem_cons_self ..)).ne_nil
  cases rest with
  | nil => simpa using hf
  | cons g rest => simp [List.intercalate_cons_cons, hf]

namespace Conjoins

variable {ms ms' : List Mark} {fs fs' : List (List (List Mark))}

theorem isWord (h : Conjoins ms fs) : ∀ w ∈ [andWord].intercalate fs, IsWord w := by
  intro w hw
  rcases mem_intercalate_andWord hw with rfl | ⟨f, hf, hw⟩
  · exact .flat (by decide)
  · exact (h.isFactor f hf).isWord w hw

theorem balanced (h : Conjoins ms fs) : Balanced ms :=
  h.eq_sentence ▸ balanced_sentence h.isWord

theorem topWords_eq (h : Conjoins ms fs) : topWords ms = [andWord].intercalate fs := by
  rw [h.eq_sentence]
  exact topWords_sentence (intercalate_andWord_ne_nil h.ne_nil h.isFactor) h.isWord

theorem orWord_notMem (h : Conjoins ms fs) : orWord ∉ topWords ms := by
  rw [h.topWords_eq]
  intro hor
  rcases mem_intercalate_andWord hor with hand | ⟨f, hf, hor⟩
  · revert hand
    decide
  · exact (h.isFactor f hf).orWord_notMem hor

theorem factors_eq (h : Conjoins ms fs) : factors (topWords ms) = fs := by
  rw [h.topWords_eq, factors_intercalate h.ne_nil h.isFactor]

/-- There is one alternative, the conjunction of the factors. -/
theorem grouped_eq (h : Conjoins ms fs) : grouped ms = [fs] := by
  rw [grouped, List.splitOn_eq_singleton h.orWord_notMem, List.map_singleton, h.factors_eq]

theorem single {f : List (List Mark)} (h : IsFactor f) : Conjoins (sentence f) [f] :=
  ⟨List.cons_ne_nil _ _, by simpa using h, by simp⟩

theorem append (h : Conjoins ms fs) (h' : Conjoins ms' fs') :
    Conjoins (ms ++ Mark.ofString " AND " ++ ms') (fs ++ fs') where
  ne_nil := List.append_ne_nil_of_left_ne_nil h.ne_nil _
  isFactor f hf := (List.mem_append.mp hf).elim (h.isFactor f) (h'.isFactor f)
  eq_sentence := by
    have hwords := intercalate_andWord_ne_nil h.ne_nil h.isFactor
    have hwords' := intercalate_andWord_ne_nil h'.ne_nil h'.isFactor
    rw [intercalate_append_of_ne_nil h.ne_nil h'.ne_nil,
      sentence_append (List.append_ne_nil_of_left_ne_nil hwords _) hwords',
      sentence_append hwords (List.cons_ne_nil _ _), sentence_singleton, ← h.eq_sentence,
      ← h'.eq_sentence]
    simp [andWord, Mark.ofString]

end Conjoins

/-- The condition is the conjunction of the factors that are read from it. -/
def IsConjunction (ms : List Mark) : Prop := Conjoins ms (factors (topWords ms))

theorem Conjoins.isConjunction {ms : List Mark} {fs : List (List (List Mark))}
    (h : Conjoins ms fs) : IsConjunction ms := by
  rw [IsConjunction, h.factors_eq]
  exact h

/-- Conditions that do not know their neighbors may be joined: their factors are
    put in a row. -/
theorem Conjoins.intercalate {parts : List (List Mark)} (hne : parts ≠ [])
    (h : ∀ p ∈ parts, IsConjunction p) :
    Conjoins ((Mark.ofString " AND ").intercalate parts)
      (parts.flatMap fun p => factors (topWords p)) := by
  induction parts with
  | nil => exact absurd rfl hne
  | cons p rest ih =>
    have hp : Conjoins p (factors (topWords p)) := h p (List.mem_cons_self ..)
    cases rest with
    | nil => simpa using hp
    | cons q rest =>
      rw [List.intercalate_cons_cons, List.flatMap_cons]
      exact hp.append (ih (List.cons_ne_nil _ _) fun x hx => h x (List.mem_cons_of_mem _ hx))

/-- A condition that is one factor. -/
theorem IsFactor.isConjunction {f : List (List Mark)} (h : IsFactor f) {ms : List Mark}
    (heq : ms = sentence f) : IsConjunction ms :=
  heq ▸ (Conjoins.single h).isConjunction

/-- A condition that is one word. -/
theorem IsTerm.isConjunction {w : List Mark} (h : IsTerm w) {ms : List Mark} (heq : ms = w) :
    IsConjunction ms :=
  (IsFactor.terms (List.cons_ne_nil w []) (by simpa using h)).isConjunction (by simpa using heq)

end PlaceSearch.Sql
