-- SUMMARY: Scanning a literal gives back the text it was written from and stops right behind it.
import PlaceSearch.Sql.Literal

/-!
# Reading literals back

Whatever text a literal holds, `Quote.scan` reads exactly that text and leaves
exactly what stands behind the closing delimiter. The reason is that no
character of the escaped text can start a delimiter.
-/

namespace PlaceSearch.Sql.Quote

/-! ## Delimiters -/

/-- A delimiter starts with the character that is escaped inside. -/
theorem delimiter_eq_cons (q : Quote) : ∃ tail, q.delimiter = q.char :: tail := by
  cases q with
  | single => exact ⟨[], rfl⟩
  | double => exact ⟨[], rfl⟩
  | triple => exact ⟨['"', '"'], rfl⟩

theorem char_ne_backslash (q : Quote) : q.char ≠ '\\' := by
  cases q <;> decide

theorem isPrefixOf_delimiter_cons_of_ne {q : Quote} {c : Char} {rest : List Char}
    (h : c ≠ q.char) : q.delimiter.isPrefixOf (c :: rest) = false := by
  obtain ⟨tail, htail⟩ := q.delimiter_eq_cons
  simp [htail, List.isPrefixOf, h.symm]

theorem isPrefixOf_delimiter_append (q : Quote) (rest : List Char) :
    q.delimiter.isPrefixOf (q.delimiter ++ rest) = true :=
  List.isPrefixOf_iff_prefix.mpr (List.prefix_append _ _)

/-! ## Scanning -/

theorem scan_delimiter_append (q : Quote) (rest : List Char) :
    q.scan (q.delimiter ++ rest) = some ([], rest) := by
  obtain ⟨tail, htail⟩ := q.delimiter_eq_cons
  have hstart := q.isPrefixOf_delimiter_append rest
  rw [htail, List.cons_append] at hstart ⊢
  rw [scan.eq_def]
  simp [htail, hstart]

/-- A character that is neither a backslash nor the quote stands for itself. -/
theorem scan_cons_of_ne {q : Quote} {c : Char} {rest : List Char} (hquote : c ≠ q.char)
    (hbackslash : c ≠ '\\') :
    q.scan (c :: rest) = (q.scan rest).map fun (text, after) => (c :: text, after) := by
  rw [scan.eq_def]
  simp [isPrefixOf_delimiter_cons_of_ne hquote, hbackslash]

/-- A backslash takes the next character as it is. -/
theorem scan_backslash_cons (q : Quote) (c : Char) (rest : List Char) :
    q.scan ('\\' :: c :: rest) = (q.scan rest).map fun (text, after) => (c :: text, after) := by
  rw [scan.eq_def]
  simp [isPrefixOf_delimiter_cons_of_ne q.char_ne_backslash.symm]

theorem scan_escapeChar_append (q : Quote) (c : Char) (rest : List Char) :
    q.scan (q.escapeChar c ++ rest) = (q.scan rest).map fun (text, after) => (c :: text, after) := by
  unfold escapeChar
  split
  · exact scan_backslash_cons q c rest
  · next h =>
    rw [not_or] at h
    exact scan_cons_of_ne h.2 h.1

/-- Scanning an escaped text with its closing delimiter gives the text and what follows. -/
theorem scan_escape_append (q : Quote) (text rest : List Char) :
    q.scan (q.escape text ++ q.delimiter ++ rest) = some (text, rest) := by
  induction text with
  | nil => exact scan_delimiter_append q rest
  | cons c text ih =>
    have hcons : q.escape (c :: text) ++ q.delimiter ++ rest =
        q.escapeChar c ++ (q.escape text ++ q.delimiter ++ rest) := by
      simp [escape]
    rw [hcons, scan_escapeChar_append, ih]
    rfl

/-- What a scan leaves is shorter than what it was given. -/
theorem length_lt_of_scan_eq_some {q : Quote} {cs text after : List Char}
    (h : q.scan cs = some (text, after)) : after.length < cs.length := by
  fun_induction scan q cs generalizing text after with
  | case1 => cases h
  | case2 c rest _ =>
    obtain ⟨tail, htail⟩ := q.delimiter_eq_cons
    obtain ⟨-, rfl⟩ := Prod.mk.inj (Option.some.inj h)
    simp only [htail, List.length_cons, List.drop_succ_cons, List.length_drop]
    omega
  | case3 => cases h
  | case4 e rest _ ih =>
    obtain ⟨⟨text', after'⟩, hscan, heq⟩ := Option.map_eq_some_iff.mp h
    obtain ⟨-, rfl⟩ := Prod.mk.inj heq
    have := ih hscan
    simp only [List.length_cons]
    omega
  | case5 c rest _ _ ih =>
    obtain ⟨⟨text', after'⟩, hscan, heq⟩ := Option.map_eq_some_iff.mp h
    obtain ⟨-, rfl⟩ := Prod.mk.inj heq
    have := ih hscan
    simp only [List.length_cons]
    omega

end PlaceSearch.Sql.Quote
