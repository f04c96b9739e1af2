-- SUMMARY: Legible coordinates: those whose text is a numeral that reads back. Finite degrees are, if their text reads back.
import PlaceSearch.Geo.Point
import PlaceSearch.Proofs.Number.Notation
import PlaceSearch.Proofs.Text.Blank

/-!
# Legible coordinates

Geometry texts hold coordinates between spaces, commas and parentheses. A
coordinate survives being written there if its text holds none of these and
reads back as the coordinate. Finite degrees are written as numerals; whether a
numeral reads back is up to the printer and the reader of numbers, and is asked
for coordinate by coordinate.
-/

namespace PlaceSearch

/-- The text of the coordinate is a numeral that reads back. -/
structure Coordinate.Legible {R : Type} [Coordinate R] (x : R) : Prop where
  ne_empty : Coordinate.render x ≠ ""
  isNumeral : ∀ c ∈ (Coordinate.render x).toList, isNumeral c = true
  read : Coordinate.readFinite? (Coordinate.render x) = some x

/-- Both coordinates are legible. -/
structure Point.Legible {R : Type} [Coordinate R] (p : Point R) : Prop where
  lat : Coordinate.Legible p.lat
  lng : Coordinate.Legible p.lng

/-- Numerals stand behind the minus sign in the order of characters. -/
theorem toNat_mem_of_isNumeral {c : Char} (h : isNumeral c = true) :
    45 ≤ c.toNat ∧ c.toNat ≤ 57 := by
  simp only [isNumeral, Bool.or_eq_true, beq_iff_eq] at h
  obtain (hdigit | rfl) | rfl := h
  · have hbounds : 48 ≤ c.toNat ∧ c.toNat ≤ 57 := Char.isDigit_iff_toNat.mp hdigit
    exact ⟨by omega, hbounds.2⟩
  · decide
  · decide

theorem isBlank_of_isNumeral {c : Char} (h : isNumeral c = true) : Text.isBlank c = false := by
  obtain ⟨hlow, hhigh⟩ := toNat_mem_of_isNumeral h
  simp [Text.isBlank]
  omega

/-! ## Finite degrees -/

open Float.Model (UnpackedFloat Format)

/-- A finite number equals itself. -/
theorem beq_self_of_isFinite {x : Float} (h : x.isFinite = true) : (x == x) = true := by
  change (x.toModel.unpack.compare x.toModel.unpack == some Ordering.eq) = true
  unfold Float.isFinite Float.Model.isFinite at h
  cases hx : x.toModel.unpack with
  | infinity sign => rw [hx] at h; cases h
  | notANumber => rw [hx] at h; cases h
  | zero sign => rfl
  | finite sign mantissa exponent hpos =>
    have hequal : (compare exponent exponent).then (compare mantissa mantissa) = .eq := by simp
    cases sign with
    | positive =>
      change (some ((compare exponent exponent).then (compare mantissa mantissa)) == some .eq) = true
      rw [hequal]
      rfl
    | negative =>
      change (some ((compare exponent exponent).then (compare mantissa mantissa)).swap ==
        some .eq) = true
      rw [hequal]
      rfl

/-- The exponent field of a finite number is not the one set aside for what is no number. -/
theorem Binary.exponentField_ne_of_isFinite {x : Float} (h : x.isFinite = true) :
    ((x.toBits >>> 52) &&& 0x7FF).toNat ≠ 0x7FF := by
  have hexponent :
      @UnpackedFloat.unpackExponent Format.binary64 x.toBits.toBitVec ≠ -1#11 := by
    intro heq
    unfold Float.isFinite Float.Model.isFinite Float.Model.unpack UnpackedFloat.unpack at h
    change @UnpackedFloat.unpackExponent Format.binary64 x.toModel.toBits.toBitVec = _ at heq
    rw [if_pos heq] at h
    split at h <;> cases h
  intro heq
  apply hexponent
  apply BitVec.eq_of_toNat_eq
  rw [UInt64.toNat_and, UInt64.toNat_shiftRight] at heq
  change x.toBits.toNat >>> 52 &&& (2 ^ 11 - 1) = 2047 at heq
  rw [Nat.and_two_pow_sub_one_eq_mod] at heq
  simpa [UnpackedFloat.unpackExponent] using heq

theorem Binary.exists_ofFloat? {x : Float} (h : x.isFinite = true) :
    ∃ b, ofFloat? x = some b := by
  rw [ofFloat?, if_neg (by simpa using exponentField_ne_of_isFinite h)]
  split
  · exact ⟨_, rfl⟩
  · exact ⟨_, rfl⟩

namespace Degrees

/-- The text of the number reads back as the number. -/
def ReadsBack (x : Degrees) : Prop :=
  Coordinate.read? (Coordinate.render x) = some x

instance : DecidablePred ReadsBack := fun x =>
  inferInstanceAs (Decidable (Coordinate.read? (Coordinate.render x) = some x))

theorem beq_self {x : Degrees} (h : Coordinate.isFinite x = true) : (x == x) = true :=
  beq_self_of_isFinite h

theorem legible {x : Degrees} (hfinite : Coordinate.isFinite x = true) (hread : x.ReadsBack) :
    Coordinate.Legible x where
  ne_empty hempty := by
    rw [ReadsBack, hempty] at hread
    have hnone : (Coordinate.read? "" : Option Degrees) = none := by decide +kernel
    rw [hnone] at hread
    cases hread
  isNumeral c hc := by
    obtain ⟨b, hb⟩ := Binary.exists_ofFloat? hfinite
    exact isNumeral_of_mem_plainNumber hb hc
  read := by
    rw [Coordinate.readFinite?, hread, Option.filter_some, if_pos hfinite]

end Degrees

namespace Point

/-- A point with finite coordinates equals itself. -/
theorem beq_self {p : Point Degrees} (h : p.isFinite = true) : (p == p) = true := by
  obtain ⟨hlat, hlng⟩ := Bool.and_eq_true_iff.mp h
  change (p.lat == p.lat && p.lng == p.lng) = true
  rw [Degrees.beq_self hlat, Degrees.beq_self hlng]
  rfl

theorem legible {p : Point Degrees} (hfinite : p.isFinite = true) (hlat : p.lat.ReadsBack)
    (hlng : p.lng.ReadsBack) : p.Legible := by
  obtain ⟨hlatFinite, hlngFinite⟩ := Bool.and_eq_true_iff.mp hfinite
  exact ⟨Degrees.legible hlatFinite hlat, Degrees.legible hlngFinite hlng⟩

end Point

end PlaceSearch
