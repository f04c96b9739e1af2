-- SUMMARY: The shortest decimal that reads back as a given binary64 number.
import PlaceSearch.Number.Binary

/-!
# Shortest decimals

The reals that round to a binary64 number form an interval around it, closed
exactly when the significand is even. `Binary.shortest` looks for the coarsest
power-of-ten grid with a point in that interval. On each grid only the two
neighbors of the number can be inside and nearest, so those two are tested.
-/

namespace PlaceSearch

/-- The decimal `digits * 10 ^ exponent`. -/
structure Decimal where
  digits : Nat
  exponent : Int
deriving DecidableEq, Repr

/-- Which of two equally near candidates is taken. -/
inductive Tie where
  | up
  | even
deriving DecidableEq, Repr

namespace Decimal

/-- Order of `d` against `n * 2 ^ e`, decided on naturals. -/
def compareBinary (d : Decimal) (n : Nat) (e : Int) : Ordering :=
  compare (d.digits * Nat.pow 10 d.exponent.toNat * Nat.pow 2 (-e).toNat)
    (n * Nat.pow 2 e.toNat * Nat.pow 10 (-d.exponent).toNat)

/-- Move trailing zeros of the digits into the exponent, at most `fuel` of them. -/
def strip : Nat → Decimal → Decimal
  | 0, d => d
  | fuel + 1, d =>
    if d.digits ≠ 0 ∧ d.digits % 10 = 0 then strip fuel ⟨d.digits / 10, d.exponent + 1⟩ else d

end Decimal

namespace Binary

/-- Whether `d` lies among the reals that round to the magnitude of `b`. -/
def readsBack (b : Binary) (d : Decimal) : Bool :=
  let low := if b.narrowBelow then 4 * b.significand - 1 else 4 * b.significand - 2
  let high := 4 * b.significand + 2
  let closed := b.significand % 2 == 0
  let againstLow := d.compareBinary low (b.exponent - 2)
  let againstHigh := d.compareBinary high (b.exponent - 2)
  (againstLow == .gt || (closed && againstLow == .eq)) &&
    (againstHigh == .lt || (closed && againstHigh == .eq))

/-- The least `k` with magnitude below `10 ^ k`, looked for upwards from an
    estimate on the binary logarithm that is never too high. -/
def scale (b : Binary) : Int :=
  let bits : Int := (Nat.log2 b.significand : Int) + b.exponent
  let start := Int.fdiv (bits * 30103) 100000 - 1
  let below (k : Int) : Bool := Decimal.compareBinary ⟨1, k⟩ b.significand b.exponent == .gt
  (([0, 1, 2, 3] : List Int).map (start + ·)).find? below |>.getD (start + 4)

/-- The candidate with `n` digits: of the two grid neighbors that read back, the nearer. -/
def candidate (b : Binary) (tie : Tie) (k : Int) (n : Nat) : Option Decimal :=
  let grid := k - n
  let (num, den) := b.ratio
  let lower := num * Nat.pow 10 (-grid).toNat / (den * Nat.pow 10 grid.toNat)
  let down : Decimal := ⟨lower, grid⟩
  let up : Decimal := ⟨lower + 1, grid⟩
  match b.readsBack down, b.readsBack up with
  | true, true =>
    match Decimal.compareBinary ⟨2 * lower + 1, grid⟩ (2 * b.significand) b.exponent with
    | .gt => some down
    | .lt => some up
    | .eq => some (match tie with
      | .up => up
      | .even => if lower % 2 = 0 then down else up)
  | true, false => some down
  | false, true => some up
  | false, false => none

/-- The exact decimal value of the magnitude. -/
def exactDecimal (b : Binary) : Decimal :=
  if b.exponent < 0 then ⟨b.significand * Nat.pow 5 (-b.exponent).toNat, b.exponent⟩
  else ⟨b.significand * Nat.pow 2 b.exponent.toNat, 0⟩

/-- The decimal with the fewest digits that reads back as the magnitude of `b`;
    of several such the nearest. Seventeen digits are always enough. -/
def shortest (b : Binary) (tie : Tie) : Decimal :=
  if b.significand = 0 then ⟨0, 0⟩
  else
    let k := b.scale
    let found := (List.range 17).findSome? fun n => b.candidate tie k (n + 1)
    (found.getD b.exactDecimal).strip 800

end Binary

end PlaceSearch
