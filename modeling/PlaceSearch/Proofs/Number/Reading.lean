-- SUMMARY: The characters of texts that read as numbers: none of them separates, encloses or is white space.
import PlaceSearch.Number.Reading
import PlaceSearch.Text.Blank

/-!
# Characters of readable numbers

A text that reads as a number holds digits, letters, signs and points. So it can be
found again between commas, parentheses and white space.
-/

namespace PlaceSearch

/-- A character from the plus sign to the last small letter, the comma aside. -/
def MayStandInNumber (c : Char) : Prop := 43 ≤ c.toNat ∧ c.toNat ≤ 122 ∧ c ≠ ','

instance : DecidablePred MayStandInNumber := fun c =>
  inferInstanceAs (Decidable (43 ≤ c.toNat ∧ c.toNat ≤ 122 ∧ c ≠ ','))

theorem MayStandInNumber.isBlank_eq_false {c : Char} (h : MayStandInNumber c) :
    Text.isBlank c = false := by
  obtain ⟨hlow, hhigh, -⟩ := h
  simp [Text.isBlank]
  omega

theorem MayStandInNumber.ne_of_toNat_lt {c d : Char} (h : MayStandInNumber c) (hd : d.toNat < 43) :
    c ≠ d := by
  rintro rfl
  exact absurd h.1 (Nat.not_le.mpr hd)

/-- All characters may stand in a number. -/
def IsNumberLike (cs : List Char) : Prop := ∀ c ∈ cs, MayStandInNumber c

instance : DecidablePred IsNumberLike := List.decidableBAll MayStandInNumber

theorem isNumberLike_nil : IsNumberLike [] := List.forall_mem_nil _

theorem isNumberLike_cons {c : Char} {cs : List Char} :
    IsNumberLike (c :: cs) ↔ MayStandInNumber c ∧ IsNumberLike cs := List.forall_mem_cons

/-! ## Digits and signs -/

theorem mayStandInNumber_of_digitValue? {c : Char} {d : Nat} (h : digitValue? c = some d) :
    MayStandInNumber c := by
  obtain ⟨⟨hlow, hhigh⟩, -⟩ := Option.ite_none_right_eq_some.mp h
  have hlow : 48 ≤ c.toNat := hlow
  have hhigh : c.toNat ≤ 57 := hhigh
  refine ⟨by omega, by omega, ?_⟩
  rintro rfl
  exact absurd hlow (by decide)

/-- What is taken off as digits is number-like. -/
theorem isNumberLike_of_takeDigits (acc count : Nat) {cs : List Char}
    (h : IsNumberLike (takeDigits acc count cs).2.2) : IsNumberLike cs := by
  induction cs generalizing acc count with
  | nil => exact isNumberLike_nil
  | cons c rest ih =>
    unfold takeDigits at h
    split at h
    · next d hd => exact isNumberLike_cons.mpr ⟨mayStandInNumber_of_digitValue? hd, ih _ _ h⟩
    · exact h

theorem isNumberLike_of_takeSign {cs : List Char} (h : IsNumberLike (takeSign cs).2) :
    IsNumberLike cs := by
  unfold takeSign at h
  split at h
  · exact isNumberLike_cons.mpr ⟨by decide, h⟩
  · exact isNumberLike_cons.mpr ⟨by decide, h⟩
  · exact h

/-! ## Numbers -/

theorem isNumberLike_of_readNat? {cs : List Char} {n : Nat} (h : readNat? cs = some n) :
    IsNumberLike cs := by
  unfold readNat? at h
  split at h
  · next hdigits =>
    apply isNumberLike_of_takeDigits 0 0
    rw [hdigits]
    exact isNumberLike_nil
  · cases h
  · cases h

theorem isNumberLike_of_readExponent? {cs : List Char} {e : Int} (h : readExponent? cs = some e) :
    IsNumberLike cs := by
  obtain ⟨negative, rest, hsign⟩ : ∃ negative rest, takeSign cs = (negative, rest) := ⟨_, _, rfl⟩
  simp only [readExponent?, hsign, Option.map_eq_some_iff, Option.bind_eq_bind,
    Option.bind_eq_some_iff] at h
  obtain ⟨-, ⟨n, hn, -⟩, -⟩ := h
  apply isNumberLike_of_takeSign
  rw [hsign]
  exact isNumberLike_of_readNat? hn

/-- Behind the digits there is nothing, or an exponent. -/
theorem isNumberLike_of_exponentPart {rest : List Char} {plain x : Float} {scaled : Int → Float}
    (h : (match rest with
      | [] => some plain
      | c :: exponent =>
        if c = 'e' ∨ c = 'E' then (readExponent? exponent).map scaled else none) = some x) :
    IsNumberLike rest := by
  cases rest with
  | nil => exact isNumberLike_nil
  | cons c exponent =>
    obtain ⟨hmark, h⟩ := Option.ite_none_right_eq_some.mp h
    obtain ⟨e, he, -⟩ := Option.map_eq_some_iff.mp h
    refine isNumberLike_cons.mpr ⟨?_, isNumberLike_of_readExponent? he⟩
    obtain rfl | rfl := hmark
    · decide
    · decide

theorem isNumberLike_of_readUnsignedFloat? {cs : List Char} {x : Float}
    (h : readUnsignedFloat? cs = some x) : IsNumberLike cs := by
  obtain ⟨whole, wholeCount, rest, hwhole⟩ :
      ∃ whole count rest, takeDigits 0 0 cs = (whole, count, rest) := ⟨_, _, _, rfl⟩
  apply isNumberLike_of_takeDigits 0 0
  rw [hwhole]
  simp only [readUnsignedFloat?, hwhole] at h
  split at h
  · next fraction =>
    have hrest := isNumberLike_of_exponentPart (Option.ite_none_left_eq_some.mp h).2
    exact isNumberLike_cons.mpr ⟨by decide, isNumberLike_of_takeDigits _ _ hrest⟩
  · exact isNumberLike_of_exponentPart (Option.ite_none_left_eq_some.mp h).2

theorem mayStandInNumber_of_toLower {c : Char} (h : MayStandInNumber c.toLower) :
    MayStandInNumber c := by
  unfold Char.toLower at h
  split at h
  · next hupper =>
    have hlow : 65 ≤ c.toNat := hupper.1
    have hhigh : c.toNat ≤ 90 := hupper.2
    refine ⟨by omega, by omega, ?_⟩
    rintro rfl
    exact absurd hlow (by decide)
  · exact h

theorem isNumberLike_of_readNonFinite? {cs : List Char} {x : Float}
    (h : readNonFinite? cs = some x) : IsNumberLike cs := by
  have hlower : IsNumberLike (cs.map Char.toLower) := by
    simp only [readNonFinite?] at h
    split at h
    · next hname =>
      obtain hname | hname := hname
      · exact hname ▸ (by decide)
      · exact hname ▸ (by decide)
    · split at h
      · next hname => exact hname ▸ (by decide)
      · cases h
  intro c hc
  exact mayStandInNumber_of_toLower (hlower _ (List.mem_map_of_mem hc))

/-- A text that reads as a number holds nothing but characters that may stand in one. -/
theorem isNumberLike_of_readFloat? {text : String} {x : Float} (h : readFloat? text = some x) :
    IsNumberLike text.toList := by
  obtain ⟨negative, rest, hsign⟩ : ∃ negative rest, takeSign text.toList = (negative, rest) :=
    ⟨_, _, rfl⟩
  simp only [readFloat?, hsign, Option.map_eq_some_iff] at h
  obtain ⟨magnitude, hmagnitude, -⟩ := h
  apply isNumberLike_of_takeSign
  rw [hsign]
  cases hunsigned : readUnsignedFloat? rest with
  | some y => exact isNumberLike_of_readUnsignedFloat? hunsigned
  | none =>
    rw [hunsigned] at hmagnitude
    exact isNumberLike_of_readNonFinite? hmagnitude

theorem ne_empty_of_readFloat? {text : String} {x : Float} (h : readFloat? text = some x) :
    text ≠ "" := by
  rintro rfl
  have hnone : readFloat? "" = none := rfl
  rw [hnone] at h
  cases h

end PlaceSearch
