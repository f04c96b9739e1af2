-- SUMMARY: Title case taken twice: the texts that it changes once more, and that it keeps a text trimmed.
import PlaceSearch.Proofs.Text.LetterCase
import PlaceSearch.Proofs.Text.Split

/-!
# Title case, twice

Title case goes from space to space: it puts a word in lower case and then its
first letter in upper case. Lower case letters stay as they are when they are put
in lower case again, so a second time can change nothing but the letters that the
first one has raised. It does where the upper case of one letter is several:
`ß` becomes `SS`, and `SS` becomes `Ss`.
-/

namespace PlaceSearch.CaseData

/-- The code points that a run moves. -/
def Run.codes (r : Run) : List Nat := List.range' r.first ((r.last - r.first) / r.step + 1) r.step

/-- The code points that the tables move, as the bits of one number: to look one up
    takes no search. -/
def moved (special : List (Nat × List Nat)) (runs : List Run) : Nat :=
  (special.map Prod.fst ++ runs.flatMap Run.codes).foldl (fun bits n => bits ||| 1 <<< n) 0

theorem Run.mem_codes {r : Run} {c n : Nat} (h : r.image? c = some n) : c ∈ r.codes := by
  simp only [Run.image?, Option.ite_none_right_eq_some] at h
  obtain ⟨⟨hfirst, hlast, hstep⟩, -⟩ := h
  have hsplit := Nat.div_add_mod (c - r.first) r.step
  rw [Run.codes, List.mem_range']
  refine ⟨(c - r.first) / r.step, ?_, by omega⟩
  exact Nat.lt_succ_of_le (Nat.div_le_div_right (by omega))

theorem testBit_foldl_shiftLeft (ns : List Nat) (bits n : Nat) :
    (ns.foldl (fun bits n => bits ||| 1 <<< n) bits).testBit n =
      (bits.testBit n || decide (n ∈ ns)) := by
  induction ns generalizing bits with
  | nil => simp
  | cons m ns ih =>
    rw [List.foldl_cons, ih, Nat.testBit_or, Nat.one_shiftLeft, Nat.testBit_two_pow]
    simp [eq_comm, Bool.or_assoc]

theorem testBit_moved {special : List (Nat × List Nat)} {runs : List Run} {n : Nat} :
    (moved special runs).testBit n = true ↔
      n ∈ special.map Prod.fst ∨ ∃ r ∈ runs, n ∈ r.codes := by
  simp [moved, testBit_foldl_shiftLeft]

/-- What is in lower case is not moved by the tables of lower case. -/
theorem lower_image_not_moved : ∀ r ∈ lowerRuns, ∀ c ∈ r.codes,
    (moved lowerSpecial lowerRuns).testBit (c + r.shift).toNat = false := by
  decide +kernel

end PlaceSearch.CaseData

namespace PlaceSearch.Text

open CaseData

variable {special : List (Nat × List Nat)} {runs : List Run} {c d : Char} {cs : List Char}

/-! ## Letters -/

theorem mapCase_ne_nil (h : VisibleImages special runs) (c : Char) :
    mapCase special runs c ≠ [] := by
  obtain ⟨entry, hentry, heq⟩ | ⟨r, hr, n, hn, heq⟩ | heq := mapCase_cases special runs c
  · exact heq ▸ (h.special entry hentry).ne_nil
  · exact heq ▸ List.cons_ne_nil _ _
  · exact heq ▸ List.cons_ne_nil _ _

/-- An image is a character itself, or it holds no white space. -/
theorem eq_or_isBlank_of_mem_mapCase (h : VisibleImages special runs)
    (hspecial : ∀ entry ∈ special, ∀ n ∈ entry.2, isBlank (Char.ofNat n) = false)
    (hd : d ∈ mapCase special runs c) : d = c ∨ isBlank d = false := by
  obtain ⟨entry, hentry, heq⟩ | ⟨r, hr, n, hn, heq⟩ | heq := mapCase_cases special runs c
  · rw [heq] at hd
    obtain ⟨n, hn, rfl⟩ := List.mem_map.mp hd
    exact Or.inr (hspecial entry hentry n hn)
  · rw [heq] at hd
    cases List.mem_singleton.mp hd
    exact Or.inr (h.isBlank_image hr hn)
  · exact Or.inl (List.mem_singleton.mp (heq ▸ hd))

theorem eq_or_isBlank_of_mem_lowerChar (hd : d ∈ lowerChar c) : d = c ∨ isBlank d = false :=
  eq_or_isBlank_of_mem_mapCase visibleImages_lower (by decide) hd

theorem eq_or_isBlank_of_mem_upperChar (hd : d ∈ upperChar c) : d = c ∨ isBlank d = false :=
  eq_or_isBlank_of_mem_mapCase visibleImages_upper (by decide) hd

theorem endsVisibly_lowerChar (hc : isBlank c = false) : EndsVisibly (lowerChar c) := by
  apply endsVisibly_of_forall (mapCase_ne_nil visibleImages_lower c)
  intro d hd
  exact (eq_or_isBlank_of_mem_lowerChar hd).elim (fun h => h ▸ hc) id

theorem endsVisibly_upperChar (hc : isBlank c = false) : EndsVisibly (upperChar c) := by
  apply endsVisibly_of_forall (mapCase_ne_nil visibleImages_upper c)
  intro d hd
  exact (eq_or_isBlank_of_mem_upperChar hd).elim (fun h => h ▸ hc) id

/-- A character stays as it is if the tables do not move its code point. -/
theorem mapCase_of_not_moved (h : (moved special runs).testBit c.toNat = false) :
    mapCase special runs c = [c] := by
  rw [← Bool.not_eq_true, testBit_moved, not_or] at h
  obtain ⟨hspecial, hruns⟩ := h
  have hnone : (special.find? fun entry => entry.1 == c.toNat) = none := by
    rw [List.find?_eq_none]
    intro entry hentry heq
    exact hspecial (beq_iff_eq.mp heq ▸ List.mem_map_of_mem hentry)
  have hnone' : (runs.findSome? fun r => r.image? c.toNat) = none := by
    rw [List.findSome?_eq_none_iff]
    intro r hr
    rw [Option.eq_none_iff_forall_ne_some]
    intro n hn
    exact hruns ⟨r, hr, r.mem_codes hn⟩
  simp only [mapCase, hnone, hnone']

theorem lowerChar_ofNat_image {r : Run} (hr : r ∈ lowerRuns) {c n : Nat}
    (hn : r.image? c = some n) : lowerChar (Char.ofNat n) = [Char.ofNat n] := by
  apply mapCase_of_not_moved
  by_cases hvalid : n.isValidChar
  · have htoNat : (Char.ofNat n).toNat = n := by rw [Char.ofNat, dif_pos hvalid]; rfl
    have hstays := lower_image_not_moved r hr c (r.mem_codes hn)
    simp only [Run.image?, Option.ite_none_right_eq_some, Option.some.injEq] at hn
    rwa [hn.2, ← htoNat] at hstays
  · have hnull : Char.ofNat n = Char.ofNat 0 := by rw [Char.ofNat, dif_neg hvalid]; rfl
    rw [hnull]
    decide +kernel

/-- Lower case letters are their own lower case. -/
theorem lowerChar_of_mem_lowerChar (hd : d ∈ lowerChar c) : lowerChar d = [d] := by
  obtain ⟨entry, hentry, heq⟩ | ⟨r, hr, n, hn, heq⟩ | heq := mapCase_cases lowerSpecial lowerRuns c
  · have hstays : ∀ entry ∈ lowerSpecial, ∀ n ∈ entry.2,
        lowerChar (Char.ofNat n) = [Char.ofNat n] := by decide
    rw [lowerChar, heq] at hd
    obtain ⟨n, hn, rfl⟩ := List.mem_map.mp hd
    exact hstays entry hentry n hn
  · rw [lowerChar, heq] at hd
    cases List.mem_singleton.mp hd
    exact lowerChar_ofNat_image hr hn
  · rw [lowerChar, heq] at hd
    cases List.mem_singleton.mp hd
    exact heq

theorem lowerChar_sigma : lowerChar 'Σ' = ['σ'] := rfl

/-- Behind its first character, an upper case form holds no sigma that could be at the
    end of a word. -/
theorem sigma_not_mem_tail_upperChar (c : Char) : 'Σ' ∉ (upperChar c).tail := by
  have htails : ∀ entry ∈ upperSpecial, 'Σ' ∉ (entry.2.map Char.ofNat).tail := by decide
  unfold upperChar
  obtain ⟨entry, hentry, heq⟩ | ⟨r, hr, n, hn, heq⟩ | heq := mapCase_cases upperSpecial upperRuns c
  · exact heq ▸ htails entry hentry
  · exact heq ▸ List.not_mem_nil
  · exact heq ▸ List.not_mem_nil

/-! ## Lower case -/

/-- A letter of a text in lower case is the lower case of a letter, or a final sigma. -/
theorem exists_of_mem_lowerFrom {before : List Char} (hd : d ∈ lowerFrom before cs) :
    d = 'ς' ∨ ∃ c ∈ cs, d ∈ lowerChar c := by
  induction cs generalizing before with
  | nil => cases hd
  | cons c rest ih =>
    rw [lowerFrom, List.mem_append] at hd
    obtain hd | hd := hd
    · split at hd
      · next hc =>
        split at hd
        · exact Or.inl (List.mem_singleton.mp hd)
        · exact Or.inr ⟨c, List.mem_cons_self, by rwa [hc, lowerChar_sigma]⟩
      · exact Or.inr ⟨c, List.mem_cons_self, hd⟩
    · obtain hfinal | ⟨e, he, hd⟩ := ih hd
      · exact Or.inl hfinal
      · exact Or.inr ⟨e, List.mem_cons_of_mem c he, hd⟩

theorem lowerChar_of_mem_lower (hd : d ∈ lower cs) : lowerChar d = [d] := by
  obtain rfl | ⟨c, -, hd⟩ := exists_of_mem_lowerFrom hd
  · rfl
  · exact lowerChar_of_mem_lowerChar hd

theorem mem_or_isBlank_of_mem_lower (hd : d ∈ lower cs) : d ∈ cs ∨ isBlank d = false := by
  obtain rfl | ⟨c, hc, hd⟩ := exists_of_mem_lowerFrom hd
  · exact Or.inr rfl
  · obtain rfl | hvisible := eq_or_isBlank_of_mem_lowerChar hd
    · exact Or.inl hc
    · exact Or.inr hvisible

theorem lowerFrom_eq_flatMap (h : 'Σ' ∉ cs) (before : List Char) :
    lowerFrom before cs = cs.flatMap lowerChar := by
  induction cs generalizing before with
  | nil => rfl
  | cons c rest ih =>
    have hc : c ≠ 'Σ' := (List.ne_of_not_mem_cons h).symm
    rw [lowerFrom, if_neg hc, ih (List.not_mem_of_not_mem_cons h), List.flatMap_cons]

/-- Lower case goes letter by letter unless a sigma stands at the end of a word. A
    first letter is none, as no word ends before it begins. -/
theorem lower_eq_flatMap (h : 'Σ' ∉ cs.tail) : lower cs = cs.flatMap lowerChar := by
  cases cs with
  | nil => rfl
  | cons c rest =>
    have hrest : lowerFrom [c] rest = rest.flatMap lowerChar := lowerFrom_eq_flatMap h [c]
    rw [lower, lowerFrom, hrest, List.flatMap_cons]
    split
    · next hc =>
      rw [hc, lowerChar_sigma]
      rfl
    · rfl

theorem flatMap_lowerChar_eq_self (h : ∀ d ∈ cs, lowerChar d = [d]) :
    cs.flatMap lowerChar = cs := by
  induction cs with
  | nil => rfl
  | cons c rest ih =>
    rw [List.flatMap_cons, h c List.mem_cons_self,
      ih fun d hd => h d (List.mem_cons_of_mem c hd), List.singleton_append]

/-! ## Lower case from space to space -/

theorem startsCased_append_space (xs ys : List Char) :
    startsCased (xs ++ ' ' :: ys) = startsCased xs := by
  have hspace : inRanges ignorableRanges ' '.toNat = false := by decide +kernel
  have hcased : inRanges casedRanges ' '.toNat = false := by decide
  unfold startsCased
  cases hxs : xs.dropWhile fun c => inRanges ignorableRanges c.toNat with
  | nil => simp only [List.dropWhile_append, hxs, List.isEmpty_nil, if_true,
      List.dropWhile_cons, hspace, Bool.false_eq_true, if_false, hcased]
  | cons x rest => simp only [List.dropWhile_append, hxs, List.isEmpty_cons, Bool.false_eq_true,
      if_false, List.cons_append]

/-- What stands before a space does not matter behind it. -/
theorem lowerFrom_append_space (before passed cs : List Char) :
    lowerFrom (before ++ ' ' :: passed) cs = lowerFrom before cs := by
  induction cs generalizing before with
  | nil => rfl
  | cons c rest ih =>
    rw [lowerFrom, lowerFrom, startsCased_append_space, ← List.cons_append, ih]

theorem lower_append_space (xs ys : List Char) :
    lower (xs ++ ' ' :: ys) = lower xs ++ ' ' :: lower ys := by
  have hfrom : ∀ before, lowerFrom before (xs ++ ' ' :: ys) =
      lowerFrom before xs ++ ' ' :: lower ys := by
    induction xs with
    | nil =>
      intro before
      have hspace : lowerChar ' ' = [' '] := rfl
      have hpassed : lowerFrom (' ' :: before) ys = lower ys := lowerFrom_append_space [] before ys
      rw [List.nil_append, lowerFrom, lowerFrom, hpassed, if_neg (by decide), hspace]
      rfl
    | cons x xs ih =>
      intro before
      rw [List.cons_append, lowerFrom, lowerFrom, startsCased_append_space, ih, List.append_assoc]
  exact hfrom []

/-- A text is put in lower case word by word. -/
theorem lower_intercalate (ws : List (List Char)) :
    lower ([' '].intercalate ws) = [' '].intercalate (ws.map lower) := by
  induction ws with
  | nil => rfl
  | cons w ws ih =>
    cases ws with
    | nil => rw [List.map_singleton, List.intercalate_singleton, List.intercalate_singleton]
    | cons next ws =>
      rw [List.map_cons, List.map_cons, List.intercalate_cons_cons, List.intercalate_cons_cons,
        List.append_assoc, List.append_assoc, ← List.map_cons, ← ih]
      exact lower_append_space w _

/-! ## Words -/

/-- The title case of one word. -/
def titleWord (word : List Char) : List Char := capitalize (lower word)

/-- The upper case of the first letter is in title case. It is not where several capitals
    come out of one letter, as of `ß`. -/
def StartsPlainly (word : List Char) : Prop :=
  ∀ c ∈ (lower word).head?, titleWord (upperChar c) = upperChar c

instance : DecidablePred StartsPlainly := fun word =>
  Option.decidableForallMem (p := fun c => titleWord (upperChar c) = upperChar c) (lower word).head?

theorem capitalize_append (h : cs ≠ []) (ds : List Char) :
    capitalize (cs ++ ds) = capitalize cs ++ ds := by
  cases cs with
  | nil => exact absurd rfl h
  | cons c rest => simp only [capitalize, List.cons_append, List.append_assoc]

theorem upperChar_ne_nil (c : Char) : upperChar c ≠ [] := mapCase_ne_nil visibleImages_upper c

theorem lower_upperChar_ne_nil (c : Char) : lower (upperChar c) ≠ [] := by
  rw [lower_eq_flatMap (sigma_not_mem_tail_upperChar c), Ne, List.flatMap_eq_nil_iff]
  intro hnil
  have hhead := List.head_mem (upperChar_ne_nil c)
  exact mapCase_ne_nil visibleImages_lower _ (hnil _ hhead)

/-- Lower case letters behind the upper case of a first letter stay as they are. -/
theorem lower_upperChar_append (c : Char) (h : ∀ d ∈ cs, lowerChar d = [d]) :
    lower (upperChar c ++ cs) = lower (upperChar c) ++ cs := by
  have htail : 'Σ' ∉ (upperChar c ++ cs).tail := by
    rw [List.tail_append_of_ne_nil (upperChar_ne_nil c), List.mem_append]
    rintro (hmem | hmem)
    · exact sigma_not_mem_tail_upperChar c hmem
    · have hsigma := h _ hmem
      rw [lowerChar_sigma] at hsigma
      exact absurd hsigma (by decide)
  rw [lower_eq_flatMap htail, lower_eq_flatMap (sigma_not_mem_tail_upperChar c),
    List.flatMap_append, flatMap_lowerChar_eq_self h]

theorem titleWord_titleWord_iff {word : List Char} :
    titleWord (titleWord word) = titleWord word ↔ StartsPlainly word := by
  have hlower : ∀ d ∈ lower word, lowerChar d = [d] := fun d hd => lowerChar_of_mem_lower hd
  unfold StartsPlainly titleWord
  generalize lower word = cs at hlower
  cases cs with
  | nil => simp [capitalize, lower, lowerFrom]
  | cons c rest =>
    rw [capitalize, lower_upperChar_append c fun d hd => hlower d (List.mem_cons_of_mem c hd),
      capitalize_append (lower_upperChar_ne_nil c), List.append_cancel_right_eq]
    simp

theorem space_not_mem_lower (h : ' ' ∉ cs) : ' ' ∉ lower cs := by
  intro hmem
  obtain hmem | hvisible := mem_or_isBlank_of_mem_lower hmem
  · exact h hmem
  · cases hvisible

theorem space_not_mem_capitalize (h : ' ' ∉ cs) : ' ' ∉ capitalize cs := by
  cases cs with
  | nil => exact h
  | cons c rest =>
    rw [capitalize, List.mem_append]
    rintro (hmem | hmem)
    · obtain rfl | hvisible := eq_or_isBlank_of_mem_upperChar hmem
      · exact h List.mem_cons_self
      · cases hvisible
    · exact h (List.mem_cons_of_mem c hmem)

/-! ## Texts -/

variable {s : String}

theorem splitOn_lower (cs : List Char) :
    splitOn ' ' (lower cs) = (splitOn ' ' cs).map lower := by
  have hjoined : lower cs = [' '].intercalate ((splitOn ' ' cs).map lower) := by
    rw [← lower_intercalate, intercalate_splitOn]
  rw [hjoined]
  apply splitOn_intercalate (mt List.map_eq_nil_iff.mp (splitBy_ne_nil _ cs))
  intro word hword
  obtain ⟨w, hw, rfl⟩ := List.mem_map.mp hword
  exact space_not_mem_lower (not_mem_of_mem_splitOn hw)

/-- Title case goes word by word. -/
theorem splitOn_titleCase (s : String) :
    splitOn ' ' (titleCase s).toList = (splitOn ' ' s.toList).map titleWord := by
  have hne : (splitOn ' ' s.toList).map titleWord ≠ [] :=
    mt List.map_eq_nil_iff.mp (splitBy_ne_nil _ s.toList)
  have hwords : (splitOn ' ' (lower s.toList)).map capitalize =
      (splitOn ' ' s.toList).map titleWord := by
    rw [splitOn_lower, List.map_map]
    rfl
  rw [titleCase, String.toList_ofList, hwords]
  apply splitOn_intercalate hne
  intro word hword
  obtain ⟨w, hw, rfl⟩ := List.mem_map.mp hword
  apply space_not_mem_capitalize
  exact space_not_mem_lower (not_mem_of_mem_splitOn hw)

/-- Every word starts plainly. -/
def PlainInitials (cs : List Char) : Prop := ∀ word ∈ splitOn ' ' cs, StartsPlainly word

instance : DecidablePred PlainInitials := fun cs =>
  inferInstanceAs (Decidable (∀ word ∈ splitOn ' ' cs, StartsPlainly word))

/-- The title case of a text is its own title case exactly if the text has plain initials. -/
theorem titleCase_titleCase_iff :
    titleCase (titleCase s) = titleCase s ↔ PlainInitials s.toList := by
  rw [← String.toList_inj, ← splitOn_inj ' ', splitOn_titleCase, splitOn_titleCase, List.map_map,
    List.map_inj_left]
  exact forall₂_congr fun word _ => titleWord_titleWord_iff

/-! ## Trimmed texts -/

theorem endsVisibly_lower (h : EndsVisibly cs) : EndsVisibly (lower cs) := by
  have hfrom : ∀ before, EndsVisibly (lowerFrom before cs) := by
    induction cs with
    | nil => exact absurd h not_endsVisibly_nil
    | cons c rest ih =>
      intro before
      rw [lowerFrom]
      by_cases hrest : rest = []
      · subst hrest
        have hc : isBlank c = false := startsVisibly_cons.mp h
        rw [lowerFrom, List.append_nil]
        split
        · split <;> decide
        · exact endsVisibly_lowerChar hc
      · exact (ih ((endsVisibly_cons hrest).mp h) (c :: before)).append_left _
  exact hfrom []

theorem endsVisibly_capitalize (h : EndsVisibly cs) : EndsVisibly (capitalize cs) := by
  cases cs with
  | nil => exact h
  | cons c rest =>
    rw [capitalize]
    by_cases hrest : rest = []
    · subst hrest
      rw [List.append_nil]
      exact endsVisibly_upperChar (startsVisibly_cons.mp h)
    · exact ((endsVisibly_cons hrest).mp h).append_left _

theorem endsVisibly_intercalate_map_capitalize {ws : List (List Char)}
    (h : EndsVisibly ([' '].intercalate ws)) :
    EndsVisibly ([' '].intercalate (ws.map capitalize)) := by
  induction ws with
  | nil => exact h
  | cons w ws ih =>
    cases ws with
    | nil =>
      rw [List.intercalate_singleton] at h
      rw [List.map_singleton, List.intercalate_singleton]
      exact endsVisibly_capitalize h
    | cons next ws =>
      rw [List.intercalate_cons_cons, List.append_assoc] at h
      rw [List.map_cons, List.map_cons, List.intercalate_cons_cons, List.append_assoc]
      have hspace : isBlank ' ' = true := rfl
      exact (endsVisibly_append_cons hspace _ _).mpr (ih ((endsVisibly_append_cons hspace w _).mp h))

/-- The title case of a trimmed text is trimmed. -/
theorem trim_titleCase_trim (s : String) : trim (titleCase (trim s)) = titleCase (trim s) := by
  by_cases hnil : trimChars s.toList = []
  · have hempty : trim s = "" := by rw [trim, hnil, String.ofList_nil]
    rw [hempty]
    decide
  · have hstart := startsVisibly_trimChars hnil
    have hend := endsVisibly_trimChars hnil
    rw [← String.toList_inj, trim, String.toList_ofList]
    apply trimChars_eq_self
    · apply startsVisibly_titleCase
      rwa [trim, String.toList_ofList]
    · rw [titleCase, String.toList_ofList]
      apply endsVisibly_intercalate_map_capitalize
      rw [intercalate_splitOn, trim, String.toList_ofList]
      exact endsVisibly_lower hend

end PlaceSearch.Text
