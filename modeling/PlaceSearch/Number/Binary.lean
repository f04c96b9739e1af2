-- SUMMARY: Finite binary64 numbers as sign, significand and exponent, with exact truncation, rounding and remainder.

/-!
# Binary numbers

A finite binary64 number is `± significand * 2 ^ exponent`. Whatever a search
needs of such a number beyond the arithmetic of `Float` itself (cutting it to
an integer, rounding it, taking its remainder by a whole turn, printing it) is
computed here on naturals, without a rounding step of its own.
-/

namespace PlaceSearch

/-- A finite binary64 number, `significand * 2 ^ exponent` with a sign. -/
structure Binary where
  negative : Bool
  significand : Nat
  exponent : Int
  /-- The gap to the next smaller magnitude is half the gap to the next larger one. -/
  narrowBelow : Bool
deriving DecidableEq, Repr

namespace Binary

/-- The fields of a finite number; `none` for infinities and for what is no number. -/
def ofFloat? (x : Float) : Option Binary :=
  let bits := x.toBits
  let negative := bits >>> 63 == 1
  let field := ((bits >>> 52) &&& 0x7FF).toNat
  let fraction := (bits &&& 0xFFFFFFFFFFFFF).toNat
  if field == 0x7FF then none
  else if field == 0 then some ⟨negative, fraction, -1074, false⟩
  else some ⟨negative, Nat.pow 2 52 + fraction, (field : Int) - 1075, fraction == 0 && field != 1⟩

/-- The magnitude as a fraction of naturals, numerator first. -/
def ratio (b : Binary) : Nat × Nat :=
  (b.significand * Nat.pow 2 b.exponent.toNat, Nat.pow 2 (-b.exponent).toNat)

/-- The integer part, with the sign. -/
def truncate (b : Binary) : Int :=
  let whole := b.ratio.1 / b.ratio.2
  if b.negative then -(whole : Int) else whole

/-- The natural number nearest to the magnitude, a half going up. -/
def nearest (b : Binary) : Nat :=
  (2 * b.ratio.1 + b.ratio.2) / (2 * b.ratio.2)

/-- The power `2 ^ e` as a binary64 number, for `-1074 ≤ e ≤ 1023`. -/
def powerOfTwo (e : Int) : Float :=
  if e < -1022 then Float.ofBits ((1 : UInt64) <<< (e + 1074).toNat.toUInt64)
  else Float.ofBits ((e + 1023).toNat.toUInt64 <<< 52)

/-- The number with these fields; exact while the significand has at most 53 bits. -/
def toFloat (b : Binary) : Float :=
  let magnitude := b.significand.toUInt64.toFloat * powerOfTwo b.exponent
  if b.negative then -magnitude else magnitude

/-- The magnitude reduced modulo a positive natural; the sign stays. -/
def modulo (b : Binary) (n : Nat) : Binary :=
  if b.exponent < 0 then
    { b with significand := b.significand % (n * Nat.pow 2 (-b.exponent).toNat) }
  else
    { b with significand := b.ratio.1 % n, exponent := 0 }

end Binary

/-- An integer of up to 64 bits as binary64. -/
def floatOfInt (i : Int) : Float :=
  let magnitude := i.natAbs.toUInt64.toFloat
  if i < 0 then -magnitude else magnitude

/-- The number `x` cut to an integer and kept between the bounds; what is no number gives zero. -/
def truncateBetween (low high : Int) (x : Float) : Int :=
  match Binary.ofFloat? x with
  | some b => max low (min high b.truncate)
  | none => if x.isNaN then 0 else if x < 0 then low else high

/-- The natural number nearest to a finite `x ≥ 0`, a half going up. -/
def roundToNat (x : Float) : Nat :=
  match Binary.ofFloat? x with
  | some b => if b.negative then 0 else b.nearest
  | none => 0

/-- The remainder of `x` by a full turn of 360 degrees, at least zero and (up to
    the one rounding that lifts a negative remainder) below 360. -/
def wrapTurn (x : Float) : Float :=
  match Binary.ofFloat? x with
  | some b =>
    let r := (b.modulo 360).toFloat
    if r < 0 then r + 360 else r
  | none => 0 / 0

end PlaceSearch
