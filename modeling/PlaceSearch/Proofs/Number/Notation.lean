-- SUMMARY: The characters of plain number texts: digits, a minus sign and a point, so that they may stand bare in a statement.
import PlaceSearch.Geo.Degrees
import PlaceSearch.Proofs.Sql.Mask

/-!
# Characters of number texts

A finite number is written with digits, a minus sign and a point. What is no
finite number has a name of letters. Either way the text holds no quotation mark.
-/

namespace PlaceSearch

/-- A character of the positional form of a number. -/
def isNumeral (c : Char) : Bool := c.isDigit || c == '-' || c == '.'

theorem Decimal.isNumeral_of_mem_digitChars {d : Decimal} {c : Char} (h : c ∈ d.digitChars) :
    isNumeral c = true := by
  have hdigit : c.isDigit = true := Nat.isDigit_of_mem_toDigits (by decide) (by decide) h
  simp [isNumeral, hdigit]

theorem isNumeral_of_mem_zeros {n : Nat} {c : Char} (h : c ∈ List.replicate n '0') :
    isNumeral c = true := by
  rw [List.eq_of_mem_replicate h]
  decide

theorem Decimal.isNumeral_of_mem_positional {d : Decimal} {c : Char} (h : c ∈ d.positional) :
    isNumeral c = true := by
  unfold Decimal.positional at h
  dsimp only at h
  split at h
  · rcases List.mem_append.mp h with h | h
    · exact isNumeral_of_mem_digitChars h
    · exact isNumeral_of_mem_zeros h
  · split at h
    · rcases List.mem_append.mp h with h | h
      · exact isNumeral_of_mem_digitChars (List.mem_of_mem_take h)
      · rcases List.mem_cons.mp h with rfl | h
        · decide
        · exact isNumeral_of_mem_digitChars (List.mem_of_mem_drop h)
    · rcases List.mem_append.mp h with h | h
      · rcases List.mem_cons.mp h with rfl | h
        · decide
        · rcases List.mem_cons.mp h with rfl | h
          · decide
          · exact isNumeral_of_mem_zeros h
      · exact isNumeral_of_mem_digitChars h

/-- A finite number is written with digits, a minus sign and a point. -/
theorem isNumeral_of_mem_plainNumber {x : Float} {b : Binary} (hx : Binary.ofFloat? x = some b)
    {c : Char} (h : c ∈ (plainNumber x).toList) : isNumeral c = true := by
  rw [plainNumber, hx] at h
  simp only [String.toList_ofList] at h
  unfold withSign at h
  split at h
  · rcases List.mem_cons.mp h with rfl | h
    · decide
    · exact Decimal.isNumeral_of_mem_positional h
  · exact Decimal.isNumeral_of_mem_positional h

theorem isQuote_of_isNumeral {c : Char} (h : isNumeral c = true) : Sql.isQuote c = false := by
  rw [Sql.isQuote, Bool.or_eq_false_iff, beq_eq_false_iff_ne, beq_eq_false_iff_ne]
  exact ⟨by rintro rfl; simp [isNumeral] at h, by rintro rfl; simp [isNumeral] at h⟩

/-- A character of a number text: of the positional form, or of the name of what
    is no finite number. -/
def isNumberChar (c : Char) : Bool := isNumeral c || ['N', 'a', 'i', 'n', 'f'].contains c

theorem isNumberChar_of_mem_plainNumber {x : Float} {c : Char} (h : c ∈ (plainNumber x).toList) :
    isNumberChar c = true := by
  cases hx : Binary.ofFloat? x with
  | some b => rw [isNumberChar, isNumeral_of_mem_plainNumber hx h, Bool.true_or]
  | none =>
    rw [plainNumber, hx] at h
    have hname : (nonFiniteText x).toList.all isNumberChar = true := by
      unfold nonFiniteText
      split
      · decide
      · split <;> decide
    exact List.all_eq_true.mp hname c h

@[simp] theorem bare_plainNumber (x : Float) : Sql.Bare (plainNumber x) := by
  cases hx : Binary.ofFloat? x with
  | none =>
    rw [plainNumber, hx]
    unfold nonFiniteText
    dsimp only
    split
    · decide
    · split <;> decide
  | some b => exact fun c hc => isQuote_of_isNumeral (isNumeral_of_mem_plainNumber hx hc)

@[simp] theorem bare_renderDegrees (x : Degrees) : Sql.Bare (Coordinate.render x) :=
  bare_plainNumber x.value

end PlaceSearch
