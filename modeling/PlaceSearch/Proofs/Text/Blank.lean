-- SUMMARY: What trimming leaves: nothing, or a text that starts and ends with characters that are not white space.
import PlaceSearch.Text.Blank

/-!
# Trimmed texts

Trimming a trimmed text changes nothing, and what is left of a text that is not
blank starts with a character that is not white space.
-/

namespace PlaceSearch.Text

/-- Nothing at the front is dropped when the first character stays. -/
theorem dropWhile_eq_self {p : Char → Bool} {cs : List Char}
    (h : ∀ c ∈ cs.head?, p c = false) : cs.dropWhile p = cs := by
  cases cs with
  | nil => rfl
  | cons c rest => rw [List.dropWhile_cons_of_neg]; simpa using h c

theorem head?_dropWhile {p : Char → Bool} {cs : List Char} :
    ∀ c ∈ (cs.dropWhile p).head?, p c = false := by
  have h := List.head?_dropWhile_not p cs
  intro c hc
  rw [Option.mem_def.mp hc] at h
  exact h

/-- Dropping at the end leaves the front as it is. -/
theorem dropEndWhile_prefix (p : Char → Bool) (cs : List Char) : dropEndWhile p cs <+: cs := by
  have h : cs.reverse.dropWhile p <:+ cs.reverse := List.dropWhile_suffix p
  simpa [dropEndWhile] using List.reverse_prefix.mpr h

/-- What is stripped starts with a character that stays. -/
theorem head?_stripWhile {p : Char → Bool} {cs : List Char} :
    ∀ c ∈ (stripWhile p cs).head?, p c = false := by
  intro c hc
  obtain ⟨tail, htail⟩ := dropEndWhile_prefix p (cs.dropWhile p)
  apply head?_dropWhile c
  rw [← htail, List.head?_append]
  simp [show (dropEndWhile p (cs.dropWhile p)).head? = some c from hc]

theorem stripWhile_stripWhile (p : Char → Bool) (cs : List Char) :
    stripWhile p (stripWhile p cs) = stripWhile p cs := by
  have hfront : (stripWhile p cs).dropWhile p = stripWhile p cs :=
    dropWhile_eq_self head?_stripWhile
  rw [stripWhile, hfront]
  simp only [stripWhile, dropEndWhile, List.reverse_reverse]
  rw [dropWhile_eq_self head?_dropWhile]

theorem trim_trim (s : String) : trim (trim s) = trim s := by
  simp [trim, trimChars, stripWhile_stripWhile]

/-- The text starts with a character that is not white space. -/
def StartsVisibly (cs : List Char) : Prop := ∃ c ∈ cs.head?, isBlank c = false

instance : DecidablePred StartsVisibly := fun cs =>
  Option.decidableExistsMem (p := (isBlank · = false)) cs.head?

@[simp] theorem not_startsVisibly_nil : ¬ StartsVisibly [] := by
  intro h
  obtain ⟨c, hc, -⟩ := h
  cases hc

@[simp] theorem startsVisibly_cons {c : Char} {rest : List Char} :
    StartsVisibly (c :: rest) ↔ isBlank c = false := by
  simp [StartsVisibly]

theorem StartsVisibly.ne_nil {cs : List Char} (h : StartsVisibly cs) : cs ≠ [] := by
  rintro rfl
  exact not_startsVisibly_nil h

theorem StartsVisibly.append {cs : List Char} (h : StartsVisibly cs) (ds : List Char) :
    StartsVisibly (cs ++ ds) := by
  obtain ⟨c, hc, hblank⟩ := h
  exact ⟨c, by simp [Option.mem_def.mp hc], hblank⟩

theorem startsVisibly_trimChars {cs : List Char} (h : trimChars cs ≠ []) :
    StartsVisibly (trimChars cs) :=
  ⟨(trimChars cs).head h, List.head?_eq_some_head h,
    head?_stripWhile _ (List.head?_eq_some_head h)⟩

/-- A text that starts visibly is not blank. -/
theorem StartsVisibly.trimChars_ne_nil {cs : List Char} (h : StartsVisibly cs) :
    trimChars cs ≠ [] := by
  cases cs with
  | nil => exact absurd h not_startsVisibly_nil
  | cons c rest =>
    have hc : isBlank c = false := startsVisibly_cons.mp h
    have hfront : (c :: rest).dropWhile isBlank = c :: rest := dropWhile_eq_self (by simpa using hc)
    rw [trimChars, stripWhile, hfront, dropEndWhile, Ne, List.reverse_eq_nil_iff, List.reverse_cons,
      List.dropWhile_append]
    split
    · rw [dropWhile_eq_self (by simpa using hc)]
      exact List.cons_ne_nil c []
    · exact List.append_ne_nil_of_right_ne_nil _ (List.cons_ne_nil c [])

theorem isEmpty_trim_of_startsVisibly {s : String} (h : StartsVisibly s.toList) :
    (trim s).isEmpty = false := by
  rw [← Bool.not_eq_true, String.isEmpty_iff, trim, ← String.toList_inj, String.toList_ofList]
  exact h.trimChars_ne_nil

/-! ## The end of a text -/

/-- The text ends with a character that is not white space. -/
def EndsVisibly (cs : List Char) : Prop := StartsVisibly cs.reverse

instance : DecidablePred EndsVisibly := fun cs =>
  inferInstanceAs (Decidable (StartsVisibly cs.reverse))

theorem not_endsVisibly_nil : ¬ EndsVisibly [] := not_startsVisibly_nil

theorem EndsVisibly.append_left {cs : List Char} (h : EndsVisibly cs) (ds : List Char) :
    EndsVisibly (ds ++ cs) := by
  rw [EndsVisibly, List.reverse_append]
  exact StartsVisibly.append h ds.reverse

/-- A text ends as what stands behind white space in it does. -/
theorem endsVisibly_append_cons {c : Char} (hc : isBlank c = true) (xs ys : List Char) :
    EndsVisibly (xs ++ c :: ys) ↔ EndsVisibly ys := by
  rw [EndsVisibly, EndsVisibly, List.reverse_append, List.reverse_cons, List.append_assoc]
  cases ys.reverse with
  | nil => simp [hc]
  | cons y rest => simp

theorem endsVisibly_cons {c : Char} {rest : List Char} (h : rest ≠ []) :
    EndsVisibly (c :: rest) ↔ EndsVisibly rest := by
  rw [EndsVisibly, EndsVisibly, List.reverse_cons]
  obtain ⟨y, ys, hys⟩ := List.exists_cons_of_ne_nil (List.reverse_ne_nil_iff.mpr h)
  simp [hys]

theorem endsVisibly_of_forall {cs : List Char} (hne : cs ≠ []) (h : ∀ c ∈ cs, isBlank c = false) :
    EndsVisibly cs := by
  obtain ⟨y, ys, hys⟩ := List.exists_cons_of_ne_nil (List.reverse_ne_nil_iff.mpr hne)
  rw [EndsVisibly, hys, startsVisibly_cons]
  apply h
  rw [← List.mem_reverse, hys]
  exact List.mem_cons_self

theorem dropWhile_isBlank_of_startsVisibly {cs : List Char} (h : StartsVisibly cs) :
    cs.dropWhile isBlank = cs := by
  apply dropWhile_eq_self
  obtain ⟨c, hc, hblank⟩ := h
  intro d hd
  rwa [← Option.mem_unique hc hd]

/-- Trimming leaves a text as it is that starts and ends visibly. -/
theorem trimChars_eq_self {cs : List Char} (hstart : StartsVisibly cs) (hend : EndsVisibly cs) :
    trimChars cs = cs := by
  rw [trimChars, stripWhile, dropWhile_isBlank_of_startsVisibly hstart, dropEndWhile,
    dropWhile_isBlank_of_startsVisibly hend, List.reverse_reverse]

theorem endsVisibly_trimChars {cs : List Char} (h : trimChars cs ≠ []) :
    EndsVisibly (trimChars cs) := by
  have hrest : (cs.dropWhile isBlank).reverse.dropWhile isBlank ≠ [] := by
    intro hnil
    rw [trimChars, stripWhile, dropEndWhile, hnil] at h
    exact h rfl
  rw [EndsVisibly, trimChars, stripWhile, dropEndWhile, List.reverse_reverse]
  exact ⟨_, List.head?_eq_some_head hrest, head?_dropWhile _ (List.head?_eq_some_head hrest)⟩

end PlaceSearch.Text
