-- SUMMARY: Three written forms of a binary64 number: plain positional, JSON, and a fixed number of places.
import PlaceSearch.Number.Shortest

/-!
# Number notation

Statements, geometry texts and messages write numbers positionally with the
fewest digits. JSON numbers keep a mark of being fractional and switch to an
exponent far from one. Coordinates computed from hexagon indices are written
with a fixed number of places.
-/

namespace PlaceSearch

namespace Decimal

/-- Decimal digits of the significand, leading digit first. -/
def digitChars (d : Decimal) : List Char := Nat.toDigits 10 d.digits

/-- Exponent of the leading digit in scientific notation. -/
def magnitude (d : Decimal) : Int := (d.digitChars.length : Int) + d.exponent - 1

/-- All digits written out around the point; no point when there is no fraction. -/
def positional (d : Decimal) : List Char :=
  let digits := d.digitChars
  if 0 ≤ d.exponent then digits ++ List.replicate d.exponent.toNat '0'
  else
    let places := (-d.exponent).toNat
    if places < digits.length then
      digits.take (digits.length - places) ++ '.' :: digits.drop (digits.length - places)
    else '0' :: '.' :: List.replicate (places - digits.length) '0' ++ digits

/-- One digit before the point, and a signed exponent. -/
def scientific (d : Decimal) : List Char :=
  let exponent := (if d.magnitude < 0 then '-' else '+') :: Nat.toDigits 10 d.magnitude.natAbs
  match d.digitChars with
  | [] => '0' :: 'e' :: exponent
  | [c] => c :: 'e' :: exponent
  | c :: rest => c :: '.' :: rest ++ 'e' :: exponent

end Decimal

/-- A minus sign in front of a negative number. -/
def withSign (negative : Bool) (text : List Char) : List Char :=
  if negative then '-' :: text else text

/-- What is no finite number has a name. -/
def nonFiniteText (x : Float) : String :=
  if x.isNaN then "NaN" else if x < 0 then "-inf" else "inf"

/-- Positional with the fewest digits: `4`, `-0`, `0.1`, `NaN`, `inf`. Never an exponent. -/
def plainNumber (x : Float) : String :=
  match Binary.ofFloat? x with
  | some b => String.ofList (withSign b.negative (b.shortest .up).positional)
  | none => nonFiniteText x

/-- A number in a JSON document: `1.0`, `-0.0`, `0.00001`, `1e-6`, `1e+16`. An
    exponent is written when that of the leading digit is below -5 or above 15. -/
def jsonNumber (x : Float) : String :=
  match Binary.ofFloat? x with
  | some b =>
    let d := b.shortest .even
    let body :=
      if d.digits ≠ 0 ∧ (d.magnitude < -5 ∨ 16 ≤ d.magnitude) then d.scientific
      else if 0 ≤ d.exponent then d.positional ++ ['.', '0']
      else d.positional
    String.ofList (withSign b.negative body)
  | none => "null"

/-- The quotient `num / den` rounded to the nearest natural, a half going to the even neighbor. -/
def divideToEven (num den : Nat) : Nat :=
  let q := num / den
  let twice := 2 * (num % den)
  if twice < den ∨ (twice = den ∧ q % 2 = 0) then q else q + 1

/-- Exactly `places` digits after the point; a value that rounds to zero has no sign. -/
def fixedNumber (places : Nat) (x : Float) : String :=
  match Binary.ofFloat? x with
  | some b =>
    let scaled := divideToEven (b.ratio.1 * Nat.pow 10 places) b.ratio.2
    let digits := Nat.toDigits 10 scaled
    let padded := List.replicate (places + 1 - digits.length) '0' ++ digits
    let cut := padded.length - places
    String.ofList (withSign (b.negative && scaled != 0)
      (padded.take cut ++ '.' :: padded.drop cut))
  | none => nonFiniteText x

end PlaceSearch
