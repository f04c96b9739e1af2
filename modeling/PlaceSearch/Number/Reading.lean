-- SUMMARY: Reading decimal texts as integers and as binary64 numbers.
import PlaceSearch.Number.Binary

/-!
# Reading numbers

A decimal text is an optional sign, digits with at most one point among them,
and an optional exponent. `inf`, `infinity` and `nan` in any letter case are
read too. Nothing else may stand before, between or after.
-/

namespace PlaceSearch

/-- The value of a decimal digit. -/
def digitValue? (c : Char) : Option Nat :=
  if '0' ≤ c ∧ c ≤ '9' then some (c.toNat - '0'.toNat) else none

/-- Read off the leading digits: their value on top of `acc`, their number, and the rest. -/
def takeDigits (acc count : Nat) : List Char → Nat × Nat × List Char
  | [] => (acc, count, [])
  | c :: rest =>
    match digitValue? c with
    | some d => takeDigits (10 * acc + d) (count + 1) rest
    | none => (acc, count, c :: rest)

/-- A text that is digits throughout, at least one. -/
def readNat? (cs : List Char) : Option Nat :=
  match takeDigits 0 0 cs with
  | (n, _ + 1, []) => some n
  | (_, 0, _) | (_, _, _ :: _) => none

/-- A leading sign: whether it is a minus, and the rest. -/
def takeSign : List Char → Bool × List Char
  | '-' :: rest => (true, rest)
  | '+' :: rest => (false, rest)
  | cs => (false, cs)

/-- A signed integer between the bounds. -/
def readIntBetween? (low high : Int) (text : String) : Option Int :=
  let (negative, rest) := takeSign text.toList
  (readNat? rest).bind fun n =>
    let value : Int := if negative then -(n : Int) else n
    if low ≤ value ∧ value ≤ high then some value else none

/-- A natural number up to `high`; a plus sign is allowed, a minus sign is not. -/
def readNatUpTo? (high : Nat) (text : String) : Option Nat :=
  let digits := match text.toList with
    | '+' :: rest => rest
    | cs => cs
  (readNat? digits).bind fun n => if n ≤ high then some n else none

/-- An exponent part after its mark: a signed integer to the end of the text. -/
def readExponent? (cs : List Char) : Option Int :=
  let (negative, rest) := takeSign cs
  (readNat? rest).map fun n => if negative then -(n : Int) else n

/-- The binary64 number nearest to `digits * 10 ^ exponent`. `count` bounds the
    number of digits, so that a value far outside the range is settled at once. -/
def nearestFloat (digits count : Nat) (exponent : Int) : Float :=
  if digits = 0 then 0
  else if (count : Int) + exponent < -400 then 0
  else if 400 + (count : Int) < exponent then 1 / 0
  else if exponent < 0 then Float.ofScientific digits true (-exponent).toNat
  else Float.ofScientific digits false exponent.toNat

/-- An unsigned decimal with an optional fraction and exponent. -/
def readUnsignedFloat? (cs : List Char) : Option Float :=
  let (whole, wholeCount, rest) := takeDigits 0 0 cs
  let (digits, count, rest) := match rest with
    | '.' :: fraction => takeDigits whole wholeCount fraction
    | _ => (whole, wholeCount, rest)
  let places : Int := (count : Int) - wholeCount
  if count = 0 then none
  else match rest with
    | [] => some (nearestFloat digits count (-places))
    | c :: exponent =>
      if c = 'e' ∨ c = 'E' then
        (readExponent? exponent).map fun e => nearestFloat digits count (e - places)
      else none

/-- The names of what is no finite number, in any letter case. -/
def readNonFinite? (cs : List Char) : Option Float :=
  let lower := cs.map Char.toLower
  if lower = "inf".toList ∨ lower = "infinity".toList then some (1 / 0)
  else if lower = "nan".toList then some (0 / 0)
  else none

/-- A decimal text as the nearest binary64 number. -/
def readFloat? (text : String) : Option Float :=
  let (negative, rest) := takeSign text.toList
  let magnitude := (readUnsignedFloat? rest).orElse fun _ => readNonFinite? rest
  magnitude.map fun x => if negative then -x else x

end PlaceSearch
