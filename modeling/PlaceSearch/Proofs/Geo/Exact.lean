-- SUMMARY: Coordinates as exact rational numbers of degrees, and what boxes of them cover.
import PlaceSearch.Geo.Box
import PlaceSearch.Number.Reading
import PlaceSearch.Proofs.Geo.Arc
import PlaceSearch.Text.Blank

/-!
# Exact coordinates

Rational numbers are a second type of coordinates, on which all operations are
exact. The geometry of boxes over them is that of the definitions alone, with
nothing owed to rounding. A box is a range of latitudes and an arc of longitudes.
-/

namespace PlaceSearch

/-- A rational number of degrees. -/
structure ExactDegrees where
  value : ℚ
deriving DecidableEq

namespace ExactDegrees

/-- Written as a fraction, `-3/2`. -/
def render (x : ExactDegrees) : String := s!"{x.value.num}/{x.value.den}"

/-- Numerator and denominator around a slash. -/
def read? (text : String) : Option ExactDegrees :=
  match Text.splitOn '/' text.toList with
  | [num, den] =>
    let (negative, digits) := takeSign num
    (readNat? digits).bind fun n => (readNat? den).bind fun d =>
      if d = 0 then none
      else some ⟨if negative then -(n : ℚ) / d else (n : ℚ) / d⟩
  | _ => none

instance : Coordinate ExactDegrees where
  beq x y := decide (x = y)
  add x y := ⟨x.value + y.value⟩
  sub x y := ⟨x.value - y.value⟩
  ofInt i := ⟨i⟩
  half x := ⟨x.value / 2⟩
  le x y := decide (x.value ≤ y.value)
  lt x y := decide (x.value < y.value)
  min x y := ⟨x.value ⊓ y.value⟩
  max x y := ⟨x.value ⊔ y.value⟩
  wrap x := ⟨Arc.wrap x.value⟩
  sortsBefore x y := decide (x.value ≤ y.value)
  isFinite _ := true
  render := render
  read? := read?

open Coordinate

@[simp] theorem value_add (x y : ExactDegrees) : (x + y).value = x.value + y.value := rfl
@[simp] theorem value_sub (x y : ExactDegrees) : (x - y).value = x.value - y.value := rfl
@[simp] theorem value_min (x y : ExactDegrees) :
    (Coordinate.min x y).value = Min.min x.value y.value := rfl
@[simp] theorem value_max (x y : ExactDegrees) :
    (Coordinate.max x y).value = Max.max x.value y.value := rfl
@[simp] theorem value_wrap (x : ExactDegrees) : (wrap x).value = Arc.wrap x.value := rfl
@[simp] theorem value_ofInt (i : ℤ) : (ofInt i : ExactDegrees).value = i := rfl
@[simp] theorem value_fullTurn : (fullTurn : ExactDegrees).value = 360 := rfl
@[simp] theorem value_halfTurn : (halfTurn : ExactDegrees).value = 180 := rfl

@[simp] theorem le_iff {x y : ExactDegrees} : le x y = true ↔ x.value ≤ y.value :=
  decide_eq_true_iff

@[simp] theorem lt_iff {x y : ExactDegrees} : lt x y = true ↔ x.value < y.value :=
  decide_eq_true_iff

end ExactDegrees

/-! ## Boxes -/

namespace Box

variable {a b : Box ExactDegrees}

/-- Longitudes from -180 to 180 and latitudes in order. -/
structure WellPlaced (b : Box ExactDegrees) : Prop where
  west : b.west.value ∈ Set.Icc (-180 : ℚ) 180
  east : b.east.value ∈ Set.Icc (-180 : ℚ) 180
  south_le_north : b.south.value ≤ b.north.value

theorem value_width (b : Box ExactDegrees) :
    b.width.value = if b.east.value < b.west.value then b.east.value - b.west.value + 360
      else b.east.value - b.west.value := by
  unfold width crosses
  simp only [ExactDegrees.lt_iff]
  split <;> simp

/-- A box covers a range of latitudes and an arc of longitudes. -/
theorem contains_iff {p : Point ExactDegrees} :
    b.contains p = true ↔ b.south.value ≤ p.lat.value ∧ p.lat.value ≤ b.north.value ∧
      p.lng.value ∈ arc b.west.value b.width.value := by
  simp [contains, mem_arc, and_assoc]

theorem WellPlaced.width_nonneg (h : b.WellPlaced) : 0 ≤ b.width.value := by
  obtain ⟨hwest, hwest'⟩ := h.west
  obtain ⟨heast, heast'⟩ := h.east
  rw [value_width]
  split <;> linarith

theorem WellPlaced.width_le (h : b.WellPlaced) : b.width.value ≤ 360 := by
  obtain ⟨hwest, hwest'⟩ := h.west
  obtain ⟨heast, heast'⟩ := h.east
  rw [value_width]
  split <;> linarith

end Box

end PlaceSearch
