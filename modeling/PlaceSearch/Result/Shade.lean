-- SUMMARY: Fill colors from yellow to red for counts.
import PlaceSearch.Number.Binary

/-!
# Shades

The fill of a cell goes from yellow to red with the square root of its share of
the largest count, so that low counts stay distinguishable. The computation is
written over any numbers with the operations it needs.
-/

namespace PlaceSearch

/-- Numbers in which a shade can be computed. -/
class ShadeNumber (R : Type) extends Add R, Sub R, Mul R, Div R where
  ofNat : Nat → R
  sqrt : R → R
  /-- Kept between zero and one. -/
  clampUnit : R → R
  /-- The nearest natural number up to 255. -/
  toByte : R → Nat

instance : ShadeNumber Float where
  ofNat n := n.toUInt64.toFloat
  sqrt := Float.sqrt
  clampUnit x := if x < 0 then 0 else if 1 < x then 1 else x
  toByte x := min 255 (roundToNat x)

/-- A color with opacity, each part from 0 to 255. -/
structure Color where
  red : Nat
  green : Nat
  blue : Nat
  alpha : Nat
deriving DecidableEq, Repr

namespace Color

/-- The fill of the lowest counts: yellow. -/
def low : Color := ⟨255, 255, 0, 180⟩

/-- The fill of the highest count: red. -/
def high : Color := ⟨255, 55, 0, 180⟩

variable {R : Type} [ShadeNumber R]

/-- The square root of the share of `count` in `max`; zero if `max` is zero. -/
def intensity (R : Type) [ShadeNumber R] (count max : Nat) : R :=
  if max = 0 then ShadeNumber.ofNat 0
  else ShadeNumber.sqrt (ShadeNumber.clampUnit (ShadeNumber.ofNat count / ShadeNumber.ofNat max))

/-- The value at `share` of the way between two bytes. -/
def blend (first last : Nat) (share : R) : Nat :=
  ShadeNumber.toByte
    (ShadeNumber.ofNat first + (ShadeNumber.ofNat last - ShadeNumber.ofNat first) * share)

/-- The fill of a count among counts up to `max`. -/
def ofCount (R : Type) [ShadeNumber R] (count max : Nat) : Color :=
  let share : R := intensity R count max
  ⟨blend low.red high.red share, blend low.green high.green share,
    blend low.blue high.blue share, low.alpha⟩

end Color

end PlaceSearch
