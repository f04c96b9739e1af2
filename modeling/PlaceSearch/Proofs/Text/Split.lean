-- SUMMARY: Splitting texts: the parts between separators, and the words between white space.
import Mathlib.Data.List.TakeWhile
import PlaceSearch.Proofs.Text.Blank

/-!
# Split texts

A separator splits a text into what splits before it and what splits behind it.
Words are the parts between white space that are not empty, so white space at
either end adds none.
-/

namespace PlaceSearch.Text

variable {sep : Char → Bool} {c : Char} {cs : List Char}

theorem splitBy_cons_of_sep (hc : sep c = true) (cs : List Char) :
    splitBy sep (c :: cs) = [] :: splitBy sep cs := by
  rw [splitBy, if_pos hc]

theorem splitBy_cons_of_not_sep (hc : sep c = false) (cs : List Char) :
    ∃ part parts, splitBy sep cs = part :: parts ∧ splitBy sep (c :: cs) = (c :: part) :: parts := by
  obtain ⟨part, parts, hparts⟩ := List.exists_cons_of_ne_nil (splitBy_ne_nil sep cs)
  refine ⟨part, parts, hparts, ?_⟩
  rw [splitBy, if_neg (by simp [hc]), hparts]

/-- A text without separators is one part. -/
theorem splitBy_eq_singleton (h : ∀ c ∈ cs, sep c = false) : splitBy sep cs = [cs] := by
  induction cs with
  | nil => rfl
  | cons c cs ih =>
    have hrest := ih fun d hd => h d (List.mem_cons_of_mem c hd)
    obtain ⟨part, parts, hparts, hcons⟩ := splitBy_cons_of_not_sep (h c List.mem_cons_self) cs
    rw [hrest] at hparts
    cases hparts
    exact hcons

/-- A separator splits a text in two. -/
theorem splitBy_append_cons (hc : sep c = true) (xs ys : List Char) :
    splitBy sep (xs ++ c :: ys) = splitBy sep xs ++ splitBy sep ys := by
  induction xs with
  | nil => exact splitBy_cons_of_sep hc ys
  | cons x xs ih =>
    cases hx : sep x with
    | true =>
      rw [List.cons_append, splitBy_cons_of_sep hx, splitBy_cons_of_sep hx, ih, List.cons_append]
    | false =>
      obtain ⟨part, parts, hparts, hcons⟩ := splitBy_cons_of_not_sep hx xs
      obtain ⟨_, _, hall, happend⟩ := splitBy_cons_of_not_sep hx (xs ++ c :: ys)
      rw [ih, hparts, List.cons_append] at hall
      cases hall
      rw [List.cons_append, happend, hcons, List.cons_append]

/-- The parts are those of the library. -/
theorem splitBy_eq_splitOnP (sep : Char → Bool) (cs : List Char) :
    splitBy sep cs = cs.splitOnP sep := by
  induction cs with
  | nil => rfl
  | cons c cs ih =>
    rw [List.splitOnP_cons_eq_if_modifyHead, ← ih]
    cases hc : sep c with
    | true => exact splitBy_cons_of_sep hc cs
    | false =>
      obtain ⟨part, parts, hparts, hcons⟩ := splitBy_cons_of_not_sep hc cs
      rw [hcons, hparts]
      rfl

/-! ## One separator -/

theorem splitOn_cons_self (comma : Char) (cs : List Char) :
    splitOn comma (comma :: cs) = [] :: splitOn comma cs := by
  apply splitBy_cons_of_sep
  exact beq_self_eq_true comma

theorem splitOn_cons_of_ne {comma : Char} (hc : c ≠ comma) (cs : List Char) :
    ∃ part parts,
      splitOn comma cs = part :: parts ∧ splitOn comma (c :: cs) = (c :: part) :: parts := by
  apply splitBy_cons_of_not_sep
  exact beq_eq_false_iff_ne.mpr hc

theorem splitOn_eq_singleton {comma : Char} (h : comma ∉ cs) : splitOn comma cs = [cs] := by
  apply splitBy_eq_singleton
  intro c hc
  rw [beq_eq_false_iff_ne]
  rintro rfl
  exact h hc

theorem splitOn_append_cons (comma : Char) (xs ys : List Char) :
    splitOn comma (xs ++ comma :: ys) = splitOn comma xs ++ splitOn comma ys := by
  apply splitBy_append_cons
  exact beq_self_eq_true comma

/-- Splitting takes apart what was joined. -/
theorem splitOn_intercalate {comma : Char} {parts : List (List Char)} (hne : parts ≠ [])
    (h : ∀ part ∈ parts, comma ∉ part) : splitOn comma ([comma].intercalate parts) = parts := by
  rw [splitOn, splitBy_eq_splitOnP]
  exact List.splitOn_intercalate comma h hne

/-- Joining puts together what was split. -/
theorem intercalate_splitOn (comma : Char) (cs : List Char) :
    [comma].intercalate (splitOn comma cs) = cs := by
  rw [splitOn, splitBy_eq_splitOnP]
  exact List.intercalate_splitOn comma

theorem exists_intercalate_cons (sep part : List Char) (parts : List (List Char)) :
    ∃ more, sep.intercalate (part :: parts) = part ++ more := by
  cases parts with
  | nil => exact ⟨[], by rw [List.intercalate_singleton, List.append_nil]⟩
  | cons next parts =>
    exact ⟨sep ++ sep.intercalate (next :: parts), by
      rw [List.intercalate_cons_cons, List.append_assoc]⟩

theorem splitOn_inj (comma : Char) {xs ys : List Char} :
    splitOn comma xs = splitOn comma ys ↔ xs = ys := by
  constructor
  · intro h
    rw [← intercalate_splitOn comma xs, h, intercalate_splitOn]
  · intro h
    rw [h]

theorem not_mem_of_mem_splitOn {comma : Char} {part : List Char}
    (hpart : part ∈ splitOn comma cs) : comma ∉ part := by
  induction cs generalizing part with
  | nil =>
    cases List.mem_singleton.mp hpart
    exact List.not_mem_nil
  | cons d cs ih =>
    by_cases hd : d = comma
    · subst hd
      rw [splitOn_cons_self, List.mem_cons] at hpart
      obtain rfl | hpart := hpart
      · exact List.not_mem_nil
      · exact ih hpart
    · obtain ⟨first, parts, hparts, hcons⟩ := splitOn_cons_of_ne hd cs
      rw [hcons, List.mem_cons] at hpart
      rw [hparts] at ih
      obtain rfl | hpart := hpart
      · exact List.not_mem_cons_of_ne_of_not_mem (Ne.symm hd) (ih List.mem_cons_self)
      · exact ih (List.mem_cons_of_mem first hpart)

/-! ## Words -/

theorem words_append_cons (hc : isBlank c = true) (xs ys : List Char) :
    words (xs ++ c :: ys) = words xs ++ words ys := by
  rw [words, splitBy_append_cons hc, List.filter_append]
  rfl

/-- White space in front belongs to no word. -/
theorem words_cons (hc : isBlank c = true) (cs : List Char) : words (c :: cs) = words cs := by
  have h := words_append_cons hc [] cs
  exact h

/-- A text without white space is one word. -/
theorem words_eq_singleton (hne : cs ≠ []) (h : ∀ c ∈ cs, isBlank c = false) :
    words cs = [cs] := by
  rw [words, splitBy_eq_singleton h]
  simp [hne]

/-- The text is white space throughout, or empty. -/
def IsSpace (cs : List Char) : Prop := ∀ c ∈ cs, isBlank c = true

instance : DecidablePred IsSpace := List.decidableBAll (isBlank · = true)

theorem IsSpace.notMem (h : IsSpace cs) (hc : isBlank c = false) : c ∉ cs := by
  intro hmem
  rw [h c hmem] at hc
  cases hc

theorem words_append_of_isSpace_left {space : List Char} (h : IsSpace space) (cs : List Char) :
    words (space ++ cs) = words cs := by
  induction space with
  | nil => rfl
  | cons c space ih =>
    rw [List.cons_append, words_cons (h c List.mem_cons_self),
      ih fun d hd => h d (List.mem_cons_of_mem c hd)]

theorem words_append_of_isSpace_right {space : List Char} (h : IsSpace space) (cs : List Char) :
    words (cs ++ space) = words cs := by
  cases space with
  | nil => rw [List.append_nil]
  | cons c space =>
    have hrest := words_append_of_isSpace_left (fun d hd => h d (List.mem_cons_of_mem c hd)) []
    rw [List.append_nil] at hrest
    rw [words_append_cons (h c List.mem_cons_self), hrest]
    exact List.append_nil (words cs)

/-- White space between two texts, if there is any, separates their words. -/
theorem words_append_of_isSpace {space : List Char} (h : IsSpace space) (hne : space ≠ [])
    (xs ys : List Char) : words (xs ++ space ++ ys) = words xs ++ words ys := by
  obtain ⟨c, rest, rfl⟩ := List.exists_cons_of_ne_nil hne
  rw [List.append_assoc, List.cons_append, words_append_cons (h c List.mem_cons_self),
    words_append_of_isSpace_left fun d hd => h d (List.mem_cons_of_mem c hd)]

/-- A word up to white space or to the end of the text. -/
theorem words_append_of_isBlank {word rest : List Char} (hne : word ≠ [])
    (hword : ∀ c ∈ word, isBlank c = false) (hrest : ∀ c ∈ rest.head?, isBlank c = true) :
    words (word ++ rest) = word :: words rest := by
  cases rest with
  | nil =>
    rw [List.append_nil, words_eq_singleton hne hword]
    rfl
  | cons c rest =>
    have hc : isBlank c = true := hrest c rfl
    rw [words_append_cons hc, words_eq_singleton hne hword, words_cons hc, List.singleton_append]

/-- A text is white space, or starts with a word behind white space. -/
theorem isSpace_or_exists_word (cs : List Char) :
    IsSpace cs ∨ ∃ before word rest, cs = before ++ word ++ rest ∧ IsSpace before ∧ word ≠ [] ∧
      (∀ c ∈ word, isBlank c = false) ∧ ∀ c ∈ rest.head?, isBlank c = true := by
  let before := cs.takeWhile isBlank
  let visible := cs.dropWhile isBlank
  let word := visible.takeWhile fun c => !isBlank c
  let rest := visible.dropWhile fun c => !isBlank c
  have hcs : before ++ visible = cs := List.takeWhile_append_dropWhile
  have hvisible : word ++ rest = visible := List.takeWhile_append_dropWhile
  have hbefore : IsSpace before := List.all_eq_true.mp List.all_takeWhile
  have hword : ∀ c ∈ word, isBlank c = false := by
    simpa using List.all_eq_true.mp (List.all_takeWhile (p := fun c => !isBlank c) (l := visible))
  have hrest : ∀ c ∈ rest.head?, isBlank c = true := by
    intro c hc
    simpa using head?_dropWhile c hc
  by_cases hne : word = []
  · left
    have hall : rest = visible := by rw [← hvisible, hne, List.nil_append]
    have hnil : visible = [] := by
      cases hstart : visible.head? with
      | none => exact List.head?_eq_none_iff.mp hstart
      | some c =>
        have hshown : isBlank c = false := head?_dropWhile c hstart
        have hhidden : isBlank c = true := hrest c (by rw [hall]; exact hstart)
        rw [hhidden] at hshown
        cases hshown
    rwa [← hcs, hnil, List.append_nil]
  · right
    refine ⟨before, word, rest, ?_, hbefore, hne, hword, hrest⟩
    rw [List.append_assoc, hvisible, hcs]

theorem words_eq_nil_of_isSpace (h : IsSpace cs) : words cs = [] := by
  have hcs := words_append_of_isSpace_left h []
  rw [List.append_nil] at hcs
  exact hcs

/-- Only white space has no words. -/
theorem isSpace_of_words_eq_nil (h : words cs = []) : IsSpace cs := by
  obtain hspace | ⟨before, word, rest, rfl, hbefore, hne, hword, hrest⟩ :=
    isSpace_or_exists_word cs
  · exact hspace
  · rw [List.append_assoc, words_append_of_isSpace_left hbefore,
      words_append_of_isBlank hne hword hrest] at h
    cases h

/-- The first word of a text stands behind white space only, and ends at white space
    or with the text. -/
theorem exists_of_words_eq_cons {word : List Char} {more : List (List Char)}
    (h : words cs = word :: more) :
    ∃ before rest, cs = before ++ word ++ rest ∧ IsSpace before ∧
      (∀ c ∈ rest.head?, isBlank c = true) ∧ words rest = more := by
  obtain hspace | ⟨before, first, rest, rfl, hbefore, hne, hfirst, hrest⟩ :=
    isSpace_or_exists_word cs
  · rw [words_eq_nil_of_isSpace hspace] at h
    cases h
  · rw [List.append_assoc, words_append_of_isSpace_left hbefore,
      words_append_of_isBlank hne hfirst hrest] at h
    obtain ⟨rfl, hmore⟩ := List.cons.inj h
    exact ⟨before, rest, rfl, hbefore, hrest, hmore⟩

/-! ## Stripping -/

/-- What is stripped off is at the two ends, and is all to be stripped. -/
theorem exists_append_stripWhile (p : Char → Bool) (cs : List Char) :
    ∃ front back, cs = front ++ stripWhile p cs ++ back ∧ (∀ c ∈ front, p c = true) ∧
      ∀ c ∈ back, p c = true := by
  have hrest := congrArg List.reverse
    (List.takeWhile_append_dropWhile (p := p) (l := (cs.dropWhile p).reverse))
  rw [List.reverse_append, List.reverse_reverse] at hrest
  refine ⟨cs.takeWhile p, ((cs.dropWhile p).reverse.takeWhile p).reverse, ?_,
    List.all_eq_true.mp List.all_takeWhile, ?_⟩
  · rw [stripWhile, dropEndWhile, List.append_assoc, hrest, List.takeWhile_append_dropWhile]
  · intro c hc
    exact List.all_eq_true.mp List.all_takeWhile c (List.mem_reverse.mp hc)

/-- What stands at the two ends of a text is stripped off, if it is all to be stripped. -/
theorem stripWhile_append {p : Char → Bool} {front back : List Char}
    (hfront : ∀ c ∈ front, p c = true) (hback : ∀ c ∈ back, p c = true) (cs : List Char) :
    stripWhile p (front ++ cs ++ back) = stripWhile p cs := by
  rw [stripWhile, List.append_assoc, List.dropWhile_append_of_pos hfront, List.dropWhile_append,
    stripWhile]
  split
  · next hall =>
    rw [List.isEmpty_iff.mp hall, List.dropWhile_eq_nil_iff.mpr hback]
  · have hends : ∀ c ∈ back.reverse, p c = true := fun c hc => hback c (List.mem_reverse.mp hc)
    rw [dropEndWhile, List.reverse_append, List.dropWhile_append_of_pos hends, dropEndWhile]

/-- Nothing is stripped of a text that holds nothing to be stripped. -/
theorem stripWhile_eq_self {p : Char → Bool} (h : ∀ c ∈ cs, p c = false) :
    stripWhile p cs = cs := by
  have hfront : cs.dropWhile p = cs := by
    apply dropWhile_eq_self
    intro c hc
    exact h c (List.mem_of_mem_head? hc)
  have hback : cs.reverse.dropWhile p = cs.reverse := by
    apply dropWhile_eq_self
    intro c hc
    exact h c (List.mem_reverse.mp (List.mem_of_mem_head? hc))
  rw [stripWhile, hfront, dropEndWhile, hback, List.reverse_reverse]

/-- Only white space is trimmed to nothing. -/
theorem isSpace_of_trimChars_eq_nil (h : trimChars cs = []) : IsSpace cs := by
  obtain ⟨front, back, hcs, hfront, hback⟩ := exists_append_stripWhile isBlank cs
  rw [show stripWhile isBlank cs = [] from h, List.append_nil] at hcs
  rw [hcs]
  exact List.forall_mem_append.mpr ⟨hfront, hback⟩

/-- White space in front is trimmed. -/
theorem trimChars_append_of_isSpace {space : List Char} (h : IsSpace space) (cs : List Char) :
    trimChars (space ++ cs) = trimChars cs := by
  rw [trimChars, ← List.append_nil (space ++ cs), stripWhile_append h (List.forall_mem_nil _),
    trimChars]

theorem trimChars_cons (hc : isBlank c = true) (cs : List Char) :
    trimChars (c :: cs) = trimChars cs :=
  trimChars_append_of_isSpace (List.forall_mem_singleton.mpr hc) cs

end PlaceSearch.Text
