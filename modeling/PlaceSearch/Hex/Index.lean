-- SUMMARY: H3 cell indices: the fields of the 64-bit form and which forms are valid.

/-!
# Cell indices

An H3 cell is named by one of 122 base cells and one digit for every finer
resolution. The 64-bit form, written in hexadecimal, packs these with a mode
and padding; `Index.ofString?` accepts exactly the forms of cells.
-/

namespace PlaceSearch.Hex

/-- A cell: its base cell and the digits of the resolutions below it, coarsest first. -/
structure Index where
  base : Nat
  digits : List Nat
deriving DecidableEq, Repr

/-- The twelve base cells that are pentagons. -/
def pentagons : List Nat := [4, 14, 24, 38, 49, 58, 63, 72, 83, 97, 107, 117]

/-- The value of a hexadecimal digit. -/
def hexValue? (c : Char) : Option Nat :=
  if '0' ≤ c ∧ c ≤ '9' then some (c.toNat - '0'.toNat)
  else if 'a' ≤ c ∧ c ≤ 'f' then some (c.toNat - 'a'.toNat + 10)
  else if 'A' ≤ c ∧ c ≤ 'F' then some (c.toNat - 'A'.toNat + 10)
  else none

/-- A 64-bit number in hexadecimal, without a mark in front; a plus sign is allowed. -/
def readHex? (text : String) : Option Nat :=
  let digits := match text.toList with
    | '+' :: rest => rest
    | cs => cs
  if digits.isEmpty then none
  else (digits.foldlM (fun n c => (hexValue? c).map (16 * n + ·)) 0).filter (· < Nat.pow 2 64)

namespace Index

/-- The level of refinement. -/
def resolution (i : Index) : Nat := i.digits.length

def isPentagonBase (i : Index) : Bool := pentagons.contains i.base

/-- The first digit that is not zero, or zero. -/
def leadingDigit (i : Index) : Nat := (i.digits.find? (· != 0)).getD 0

/-- A cell is a pentagon if it is the center all the way down in a pentagon. -/
def isPentagon (i : Index) : Bool := i.isPentagonBase && i.leadingDigit == 0

/-- The bits of `n` from `shift` on, `width` of them. -/
def bitField (n shift width : Nat) : Nat := n / Nat.pow 2 shift % Nat.pow 2 width

/-- The fifteen digits of the 64-bit form, coarsest first. -/
def digitFields (n : Nat) : List Nat := (List.range 15).map fun r => bitField n (3 * (14 - r)) 3

/-- Read the 64-bit form. The mode is that of cells, reserved bits are clear,
    digits up to the resolution are below 7 and the others are 7, and below a
    pentagon the first direction that is not the center is not the missing one. -/
def ofBits? (n : Nat) : Option Index :=
  let resolution := bitField n 52 4
  let cell : Index := ⟨bitField n 45 7, (digitFields n).take resolution⟩
  if bitField n 63 1 = 0 ∧ bitField n 59 4 = 1 ∧ bitField n 56 3 = 0 ∧ cell.base < 122 ∧
      cell.digits.all (· < 7) ∧ ((digitFields n).drop resolution).all (· == 7) ∧
      ¬(cell.isPentagonBase ∧ cell.leadingDigit = 1) then
    some cell
  else none

/-- Read the hexadecimal text of a cell index. -/
def ofString? (text : String) : Option Index := (readHex? text).bind ofBits?

end Index

end PlaceSearch.Hex
