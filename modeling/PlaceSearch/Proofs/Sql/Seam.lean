-- SUMMARY: Where the two words of the privacy qualifier meet: masked texts that hold the qualifier once, or nowhere.
import PlaceSearch.Proofs.Sql.Mask
import PlaceSearch.Query.Statement

/-!
# The seam of the qualifier

`WITH AGGREGATION_THRESHOLD` is two words, and names that a user chose may end
or start like either of them. What no name can imitate is the seam `H AG`, since
no name holds a space. A reader that watches for the seam passes calm texts
without finding it and is in the middle of none behind them, so calm texts in a
row are calm. Wherever the qualifier stands, the reader finds a seam; if it finds
one in all, the qualifier stands in one place.
-/

namespace PlaceSearch.Sql

/-- The text stands directly behind the front, and nowhere else. -/
def StandsOnlyBehind (text front ms : List Mark) : Prop :=
  ∀ other, other ++ text <+: ms ↔ other = front

/-- The qualifier in a masked text. -/
def qualifier : List Mark := Mark.ofString Statement.privacyQualifier

/-! ## Watching for the seam -/

/-- How much of `H AG` has just been read. -/
inductive Seam where
  | nothing
  | letter
  | gap
  | next
deriving DecidableEq, Repr

namespace Seam

/-- What has been read behind one more mark. -/
def step (s : Seam) (m : Mark) : Seam :=
  if s = .letter ∧ m = .char ' ' then .gap
  else if s = .gap ∧ m = .char 'A' then .next
  else if m = .char 'H' then .letter
  else .nothing

/-- What has been read behind some marks. -/
def behind (s : Seam) (ms : List Mark) : Seam := ms.foldl step s

/-- How many seams are completed. -/
def count (s : Seam) : List Mark → Nat
  | [] => 0
  | m :: rest => (if s = .next ∧ m = .char 'G' then 1 else 0) + (s.step m).count rest

theorem behind_append (s : Seam) (a b : List Mark) : s.behind (a ++ b) = (s.behind a).behind b :=
  List.foldl_append

theorem count_append (s : Seam) (a b : List Mark) :
    s.count (a ++ b) = s.count a + (s.behind a).count b := by
  induction a generalizing s with
  | nil => simp [count, behind]
  | cons m a ih =>
    have hbehind : s.behind (m :: a) = (s.step m).behind a := rfl
    rw [List.cons_append, count, ih, count, hbehind, Nat.add_assoc]

/-- The start of the qualifier, up to the end of its seam. -/
def lead : List Mark := Mark.ofString "WITH AG"

theorem count_lead (s : Seam) : s.count lead = 1 := by
  cases s <;> decide

theorem count_qualifier (s : Seam) : s.count qualifier = 1 := by
  cases s <;> decide +kernel

/-- Every qualifier has a seam. -/
theorem count_pos_of_infix {ms : List Mark} (h : qualifier <:+: ms) (s : Seam) :
    0 < s.count ms := by
  obtain ⟨front, back, rfl⟩ := h
  rw [count_append, count_append, count_qualifier]
  omega

/-- A qualifier further on is a second seam, or the same qualifier: two of them
    overlap nowhere in front of the seam. -/
theorem eq_nil_of_count_eq_zero {between back back' : List Mark} {s : Seam}
    (hcount : s.count between = 0) (h : qualifier ++ back = between ++ (qualifier ++ back')) :
    between = [] := by
  obtain ⟨rest, hrest⟩ : lead <+: qualifier := by decide +kernel
  rw [← hrest, List.append_assoc] at h
  rcases List.append_eq_append_iff.mp h with ⟨tail, rfl, -⟩ | ⟨tail, hlead, htail⟩
  · rw [count_append, count_lead] at hcount
    omega
  · cases between with
    | nil => rfl
    | cons m between =>
      cases tail with
      | nil =>
        rw [List.append_nil] at hlead
        rw [← hlead, count_lead] at hcount
        cases hcount
      | cons w tail =>
        have hmem : w ∈ lead.tail := by simp [hlead]
        obtain rfl : w = .char 'W' := (List.cons.inj htail).1.symm
        exact absurd hmem (by decide)

/-- With one seam in all, the qualifier stands in one place. -/
theorem standsOnlyBehind {front back : List Mark} {s : Seam}
    (h : s.count (front ++ (qualifier ++ back)) = 1) :
    StandsOnlyBehind qualifier front (front ++ (qualifier ++ back)) := by
  have hzero : ∀ {a b : List Mark}, a ++ (qualifier ++ b) = front ++ (qualifier ++ back) →
      s.count a = 0 := by
    intro a b heq
    rw [← heq, count_append, count_append, count_qualifier] at h
    omega
  intro other
  constructor
  · rintro ⟨rest, heq⟩
    rw [List.append_assoc] at heq
    rcases List.append_eq_append_iff.mp heq with ⟨between, rfl, hbetween⟩ | ⟨between, rfl, hbetween⟩
    · have hfront := hzero rfl
      rw [count_append] at hfront
      rw [eq_nil_of_count_eq_zero (s := s.behind other) (by omega) hbetween, List.append_nil]
    · have hother := hzero heq
      rw [count_append] at hother
      rw [eq_nil_of_count_eq_zero (s := s.behind front) (by omega) hbetween, List.append_nil]
  · rintro rfl
    exact ⟨back, by rw [List.append_assoc]⟩

end Seam

/-! ## Calm texts -/

/-- What may have been read between two parts of a statement. -/
def Seam.early : List Seam := [.nothing, .letter, .gap]

theorem Seam.ne_next_of_mem_early {s : Seam} (h : s ∈ early) : s ≠ .next := by
  rintro rfl
  revert h
  decide

/-- A reader finds no seam in the text, and is not in the second word of one behind it. -/
def Calm (ms : List Mark) : Prop :=
  ∀ s ∈ Seam.early, s.count ms = 0 ∧ s.behind ms ∈ Seam.early

/-- A calm text that leaves nothing of a seam, so that any name may follow. -/
def Settled (ms : List Mark) : Prop :=
  ∀ s ∈ Seam.early, s.count ms = 0 ∧ s.behind ms = .nothing

instance (ms : List Mark) : Decidable (Calm ms) :=
  inferInstanceAs (Decidable (∀ s ∈ Seam.early, _))

instance (ms : List Mark) : Decidable (Settled ms) :=
  inferInstanceAs (Decidable (∀ s ∈ Seam.early, _))

/-- The characters of a text that is spelled out need not be decoded. -/
theorem Mark.ofString_ofList (cs : List Char) :
    Mark.ofString (String.ofList cs) = cs.map .char := by
  rw [Mark.ofString, String.toList_ofList]

theorem Settled.spelled {cs : List Char} (h : Settled (cs.map .char)) :
    Settled (Mark.ofString (String.ofList cs)) := by
  rwa [Mark.ofString_ofList]

/-- A name holds no seam, since it holds no space. -/
theorem Seam.count_name {name : List Mark} (h : .char ' ' ∉ name) :
    ∀ s ∈ [Seam.nothing, .letter], s.count name = 0 ∧ s.behind name ∈ [Seam.nothing, .letter] := by
  induction name with
  | nil => exact fun _ hs => ⟨rfl, hs⟩
  | cons m rest ih =>
    rw [List.mem_cons, not_or] at h
    intro s hs
    have hearly : s ≠ .gap ∧ s ≠ .next := by
      constructor <;> (rintro rfl; revert hs; decide)
    have hstep : s.step m ∈ [Seam.nothing, .letter] := by
      rw [step, if_neg fun h' => h.1 h'.2.symm, if_neg fun h' => hearly.1 h'.1]
      split <;> decide
    rw [count, if_neg fun h' => hearly.2 h'.1, Nat.zero_add]
    exact ih h.2 _ hstep

namespace Calm

theorem nil : Calm [] := fun _ hs => ⟨rfl, hs⟩

theorem spelled {cs : List Char} (h : Calm (cs.map .char)) :
    Calm (Mark.ofString (String.ofList cs)) := by
  rwa [Mark.ofString_ofList]

theorem append {a b : List Mark} (ha : Calm a) (hb : Calm b) : Calm (a ++ b) := by
  intro s hs
  obtain ⟨hcount, hbehind⟩ := ha s hs
  rw [Seam.count_append, Seam.behind_append, hcount, Nat.zero_add]
  exact hb _ hbehind

/-- Any name may follow a settled text. -/
theorem append_name {a name : List Mark} (ha : Settled a) (h : .char ' ' ∉ name) :
    Calm (a ++ name) := by
  intro s hs
  obtain ⟨hcount, hbehind⟩ := ha s hs
  obtain ⟨hname, hletter⟩ := Seam.count_name h .nothing (by decide)
  rw [Seam.count_append, Seam.behind_append, hcount, hbehind, Nat.zero_add]
  exact ⟨hname, List.mem_append_left [Seam.gap] hletter⟩

/-- The second word of a seam starts with its letter. -/
theorem of_notMem {ms : List Mark} (h : .char 'A' ∉ ms) : Calm ms := by
  induction ms with
  | nil => exact nil
  | cons m rest ih =>
    rw [List.mem_cons, not_or] at h
    intro s hs
    have hstep : s.step m ∈ Seam.early := by
      unfold Seam.step
      split
      · decide
      · rw [if_neg fun h' => h.1 h'.2.symm]
        split <;> decide
    rw [Seam.count, if_neg fun h' => Seam.ne_next_of_mem_early hs h'.1, Nat.zero_add]
    exact ih h.2 _ hstep

theorem flatMap {α : Type} {f : α → List Mark} {xs : List α} (h : ∀ x ∈ xs, Calm (f x)) :
    Calm (xs.flatMap f) := by
  induction xs with
  | nil => exact nil
  | cons x xs ih =>
    rw [List.flatMap_cons]
    exact (h x (List.mem_cons_self ..)).append (ih fun y hy => h y (List.mem_cons_of_mem _ hy))

theorem intercalate {separator : List Mark} {parts : List (List Mark)} (hsep : Calm separator)
    (h : ∀ p ∈ parts, Calm p) : Calm (separator.intercalate parts) :=
  intercalate_of_append nil append hsep h

/-- A calm text does not hold the qualifier. -/
theorem not_infix {ms : List Mark} (h : Calm ms) : ¬ qualifier <:+: ms := by
  intro hinfix
  have hpos := Seam.count_pos_of_infix hinfix .nothing
  rw [(h .nothing (by decide)).1] at hpos
  exact absurd hpos (Nat.lt_irrefl 0)

/-- Between calm texts the qualifier stands in one place. -/
theorem standsOnlyBehind {front back : List Mark} (hfront : Calm front) (hback : Calm back) :
    StandsOnlyBehind qualifier front (front ++ (qualifier ++ back)) := by
  obtain ⟨hcount, hbehind⟩ := hfront .nothing (by decide)
  have hqualifier : ∀ s ∈ Seam.early, s.behind qualifier = .nothing := by decide +kernel
  have hrest : Seam.nothing.count back = 0 := (hback .nothing (by decide)).1
  refine Seam.standsOnlyBehind (s := .nothing) ?_
  rw [Seam.count_append, Seam.count_append, hcount, Seam.count_qualifier,
    hqualifier _ hbehind, hrest]

end Calm

end PlaceSearch.Sql
