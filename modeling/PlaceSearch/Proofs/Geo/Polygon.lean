-- SUMMARY: Which drawn polygons can be pasted back: all but those of three vertices that end where they start.
import Mathlib.Data.List.Basic
import PlaceSearch.Proofs.Geo.Finite
import PlaceSearch.Proofs.Geo.Wkt

/-!
# Drawn polygons as text

A drawing needs three vertices and a pasted ring four, the closing one included.
Closing adds a vertex unless the drawing already ends where it starts. So the
text of a drawing reads back, except that of three vertices the last of which
equals the first: its ring has three coordinates and is refused.
-/

namespace PlaceSearch

variable {R : Type} [Coordinate R]

/-- From one point to another and back: three vertices, the last equal to the first. -/
def Wkt.ThereAndBack (vertices : List (Point R)) : Prop :=
  ∃ a b c, vertices = [a, b, c] ∧ (a == c) = true

namespace Wkt

/-- Closing adds one vertex, or none if the last one equals the first. -/
theorem length_closed {vertices : List (Point R)} (hne : vertices ≠ []) :
    (closed vertices).length =
      if vertices.head hne == vertices.getLast hne then vertices.length
      else vertices.length + 1 := by
  rw [closed_eq hne]
  split
  · rfl
  · exact List.length_append

/-- Of the rings of three vertices and more, only one there and back has less than
    four coordinates when it is closed. -/
theorem four_le_length_closed_iff {vertices : List (Point R)} (h : 3 ≤ vertices.length) :
    4 ≤ (closed vertices).length ↔ ¬ ThereAndBack vertices := by
  have hne : vertices ≠ [] := List.ne_nil_of_length_pos (by omega)
  rw [length_closed hne]
  constructor
  · rintro hfour ⟨a, b, c, rfl, hends⟩
    simp [hends] at hfour
  · intro hopen
    split
    · next hends =>
      have hmore : vertices.length ≠ 3 := by
        intro hthree
        obtain ⟨a, b, c, rfl⟩ := List.length_eq_three.mp hthree
        exact hopen ⟨a, b, c, rfl, hends⟩
      omega
    · omega

/-- There are three coordinates in a ring there and back. -/
theorem length_closed_of_thereAndBack {vertices : List (Point R)} (h : ThereAndBack vertices) :
    (closed vertices).length = 3 := by
  obtain ⟨a, b, c, rfl, hends⟩ := h
  rw [length_closed (List.cons_ne_nil a [b, c])]
  exact if_pos hends

end Wkt

namespace Polygon

/-- A drawing is accepted for at least three vertices that are all finite. -/
theorem ofVertices_eq_ok_iff {vertices : List (Point R)} {p : Polygon R} :
    ofVertices vertices = .ok p ↔ p.vertices = vertices ∧ ∀ v ∈ vertices, v.isFinite = true := by
  constructor
  · intro h
    have hvertices : p.vertices = vertices := by
      unfold ofVertices at h
      split at h
      · split at h
        · cases h
        · cases h
          rfl
      · cases h
    exact ⟨hvertices, hvertices ▸ isFinite_of_ofVertices h⟩
  · rintro ⟨rfl, hfinite⟩
    have hnone : p.vertices.find? (fun v => !v.isFinite) = none := by
      rw [List.find?_eq_none]
      intro v hv
      simp [hfinite v hv]
    have hthree : minDrawn ≤ p.vertices.length := p.three_le
    simp only [ofVertices, hnone]
    exact dif_pos hthree

/-- A text that reads as a ring is a polygon if the ring is long enough. -/
theorem ofText_of_readRing {text : String} {ring : List (Point R)}
    (h : Wkt.readRing text = .ok ring) :
    (4 ≤ ring.length → ∃ q : Polygon R, ofText text = .ok q ∧ q.vertices = ring) ∧
      (ring.length < 4 →
        (ofText text : Except GeometryFault (Polygon R)) =
          .error (.tooFewVertices 4 ring.length)) := by
  constructor
  · intro hlong
    refine ⟨⟨ring, Nat.le_of_succ_le hlong⟩, ?_, rfl⟩
    simp only [ofText, h]
    exact dif_pos hlong
  · intro hshort
    simp only [ofText, h]
    exact dif_neg (Nat.not_le.mpr hshort)

/-- The text of a drawing is read as its ring, closed. -/
theorem readRing_toText {vertices : List (Point Degrees)} {p : Polygon Degrees}
    (hp : ofVertices vertices = .ok p)
    (hread : ∀ v ∈ vertices, v.lat.ReadsBack ∧ v.lng.ReadsBack) :
    Wkt.readRing p.toText = .ok p.ring := by
  obtain ⟨rfl, hfinite⟩ := ofVertices_eq_ok_iff.mp hp
  apply Wkt.readRing_polygon_of_legible p.vertices_ne_nil
  intro v hv
  exact Point.legible (hfinite v hv) (hread v hv).1 (hread v hv).2

/-- The text of a drawing there and back is refused for the number of its coordinates. -/
theorem ofText_toText_of_thereAndBack {vertices : List (Point Degrees)} {p : Polygon Degrees}
    (hp : ofVertices vertices = .ok p)
    (hread : ∀ v ∈ vertices, v.lat.ReadsBack ∧ v.lng.ReadsBack)
    (hends : Wkt.ThereAndBack vertices) :
    (ofText p.toText : Except GeometryFault (Polygon Degrees)) = .error (.tooFewVertices 4 3) := by
  have hlength : p.ring.length = 3 := by
    rw [ring, (ofVertices_eq_ok_iff.mp hp).1]
    exact Wkt.length_closed_of_thereAndBack hends
  have hrefused := (ofText_of_readRing (readRing_toText hp hread)).2
  rw [hlength] at hrefused
  exact hrefused (by decide)

/-- A drawing whose coordinates read back one by one can be pasted back as its
    closed ring, except one there and back, whose text is refused. -/
theorem pastesBack_iff {vertices : List (Point Degrees)} {p : Polygon Degrees}
    (hp : ofVertices vertices = .ok p)
    (hread : ∀ v ∈ vertices, v.lat.ReadsBack ∧ v.lng.ReadsBack) :
    ((∃ q : Polygon Degrees, ofText p.toText = .ok q ∧ q.vertices = p.ring) ↔
        ¬ Wkt.ThereAndBack vertices) ∧
      (Wkt.ThereAndBack vertices →
        (ofText p.toText : Except GeometryFault (Polygon Degrees)) =
          .error (.tooFewVertices 4 3)) := by
  refine ⟨⟨?_, ?_⟩, ofText_toText_of_thereAndBack hp hread⟩
  · rintro ⟨q, hq, -⟩ hends
    rw [ofText_toText_of_thereAndBack hp hread hends] at hq
    cases hq
  · intro hopen
    have hvertices := (ofVertices_eq_ok_iff.mp hp).1
    have hlong : 4 ≤ p.ring.length :=
      (Wkt.four_le_length_closed_iff p.three_le).mpr (by rwa [hvertices])
    exact (ofText_of_readRing (readRing_toText hp hread)).1 hlong

/-- A triangle with one vertex on the meridian of Greenwich can be pasted back. -/
theorem pastesBack_triangle :
    let vertices : List (Point Degrees) :=
      [⟨.ofFloat 51.5, .ofFloat (-0.0)⟩, ⟨.ofFloat 52.25, .ofFloat 13.1⟩, ⟨.ofFloat 51, .ofFloat 0.1⟩]
    ∃ p, ofVertices vertices = .ok p ∧
      (∀ v ∈ vertices, v.lat.ReadsBack ∧ v.lng.ReadsBack) ∧
      ∃ q : Polygon Degrees, ofText p.toText = .ok q ∧ q.vertices = p.ring := by
  intro vertices
  have hread : ∀ v ∈ vertices, v.lat.ReadsBack ∧ v.lng.ReadsBack := by decide +kernel
  have hp : ofVertices vertices = .ok ⟨vertices, Nat.le_refl 3⟩ :=
    ofVertices_eq_ok_iff.mpr ⟨rfl, by decide +kernel⟩
  refine ⟨_, hp, hread, (pastesBack_iff hp hread).1.mpr ?_⟩
  rintro ⟨a, b, c, hvertices, hends⟩
  rw [List.cons.injEq, List.cons.injEq, List.cons.injEq] at hvertices
  obtain ⟨rfl, rfl, rfl, -⟩ := hvertices
  revert hends
  decide +kernel

/-- Not every drawing can be pasted back: three clicks, the last on the place of the
    first, are drawn as a polygon whose text is refused. -/
theorem not_forall_pastesBack :
    ¬ ∀ (vertices : List (Point Degrees)) (p : Polygon Degrees), ofVertices vertices = .ok p →
      (∀ v ∈ vertices, v.lat.ReadsBack ∧ v.lng.ReadsBack) →
        ∃ q : Polygon Degrees, ofText p.toText = .ok q ∧ q.vertices = p.ring := by
  intro hall
  let vertices : List (Point Degrees) :=
    [⟨.ofFloat 52, .ofFloat 13⟩, ⟨.ofFloat 53, .ofFloat 13⟩, ⟨.ofFloat 52, .ofFloat 13⟩]
  have hread : ∀ v ∈ vertices, v.lat.ReadsBack ∧ v.lng.ReadsBack := by decide +kernel
  have hp : ofVertices vertices = .ok ⟨vertices, Nat.le_refl 3⟩ :=
    ofVertices_eq_ok_iff.mpr ⟨rfl, by decide +kernel⟩
  have hends : Wkt.ThereAndBack vertices := ⟨_, _, _, rfl, by decide +kernel⟩
  obtain ⟨q, hq, -⟩ := hall vertices _ hp hread
  rw [ofText_toText_of_thereAndBack hp hread hends] at hq
  cases hq

end Polygon

end PlaceSearch
