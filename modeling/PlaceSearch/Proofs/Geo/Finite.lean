-- SUMMARY: Polygons that are drawn or pasted have finite vertices; a vertex edit adds the place it names and no other.
import PlaceSearch.Geo.Polygon

/-!
# Finite polygons

A ring is read with `Coordinate.readFinite?` and drawn vertices are looked
through, so both ways to a polygon lead to finite vertices. A vertex that is
moved or inserted is taken as it comes.
-/

namespace PlaceSearch

variable {R : Type} [Coordinate R]

theorem Coordinate.isFinite_of_readFinite? {text : String} {x : R}
    (h : readFinite? text = some x) : isFinite x = true :=
  (Option.filter_eq_some_iff.mp h).2

namespace Wkt

theorem isFinite_of_readPair? {cs : List Char} {p : Point R} (h : readPair? cs = some p) :
    p.isFinite = true := by
  unfold readPair? at h
  split at h
  · simp only [Option.bind_eq_some_iff, Option.map_eq_some_iff] at h
    obtain ⟨x, hx, y, hy, rfl⟩ := h
    rw [Point.isFinite, Coordinate.isFinite_of_readFinite? hx, Coordinate.isFinite_of_readFinite? hy]
    rfl
  · cases h

theorem isFinite_of_readPairs {pairs : List (List Char)} {ring : List (Point R)}
    (h : readPairs pairs = .ok ring) : ∀ p ∈ ring, p.isFinite = true := by
  induction pairs generalizing ring with
  | nil =>
    cases h
    rintro p ⟨⟩
  | cons pair pairs ih =>
    rw [readPairs] at h
    split at h
    · next p hp =>
      cases hrest : (readPairs pairs : Except GeometryFault (List (Point R))) with
      | error fault => rw [hrest] at h; cases h
      | ok rest =>
        rw [hrest] at h
        cases h
        exact List.forall_mem_cons.mpr ⟨isFinite_of_readPair? hp, ih hrest⟩
    · cases h

theorem isFinite_of_readRing {text : String} {ring : List (Point R)}
    (h : readRing text = .ok ring) : ∀ p ∈ ring, p.isFinite = true := by
  unfold readRing at h
  split at h
  · cases h
  · exact isFinite_of_readPairs h

/-- A pair in the ring of a text that is not read as two finite coordinates. -/
def Unread (R : Type) [Coordinate R] (text : String) (pair : List Char) : Prop :=
  ∃ body, body? text = some body ∧ pair ∈ Text.splitOn ',' (firstRing body) ∧
    (readPair? pair : Option (Point R)) = none

theorem readPairs_eq_badCoordinate {pairs : List (List Char)} {pair : List Char}
    (hmem : pair ∈ pairs) (hpair : (readPair? pair : Option (Point R)) = none) :
    ∃ bad ∈ pairs, (readPair? bad : Option (Point R)) = none ∧
      (readPairs pairs : Except GeometryFault (List (Point R))) =
        .error (.badCoordinate (String.ofList (Text.trimChars bad))) := by
  induction pairs with
  | nil => cases hmem
  | cons head pairs ih =>
    cases hhead : (readPair? head : Option (Point R)) with
    | none => exact ⟨head, List.mem_cons_self, hhead, by rw [readPairs, hhead]⟩
    | some p =>
      have hrest : pair ∈ pairs := by
        obtain rfl | hrest := List.mem_cons.mp hmem
        · rw [hpair] at hhead
          cases hhead
        · exact hrest
      obtain ⟨bad, hbad, hunread, herror⟩ := ih hrest
      refine ⟨bad, List.mem_cons_of_mem _ hbad, hunread, ?_⟩
      rw [readPairs, hhead, herror]
      rfl

end Wkt

namespace Polygon

variable {p q : Polygon R}

/-- A pasted polygon has the vertices that its text reads as. -/
theorem readRing_of_ofText {text : String} (h : ofText text = .ok p) :
    Wkt.readRing text = .ok p.vertices := by
  unfold ofText at h
  split at h
  · cases h
  · next ring hring =>
    split at h
    · cases h
      exact hring
    · cases h

theorem isFinite_of_ofText {text : String} (h : ofText text = .ok p) :
    ∀ v ∈ p.vertices, v.isFinite = true :=
  Wkt.isFinite_of_readRing (readRing_of_ofText h)

theorem isFinite_of_ofVertices {vertices : List (Point R)} (h : ofVertices vertices = .ok p) :
    ∀ v ∈ p.vertices, v.isFinite = true := by
  unfold ofVertices at h
  split at h
  · split at h
    · cases h
    · next hnone =>
      cases h
      intro v hv
      simpa using List.find?_eq_none.mp hnone v hv
  · cases h

/-- A pasted text is rejected for a pair that is not read, if there is one. -/
theorem ofText_eq_badCoordinate {text : String} {pair : List Char}
    (h : Wkt.Unread R text pair) :
    ∃ bad, Wkt.Unread R text bad ∧
      (ofText text : Except GeometryFault (Polygon R)) =
        .error (.badCoordinate (String.ofList (Text.trimChars bad))) := by
  obtain ⟨body, hbody, hmem, hpair⟩ := h
  obtain ⟨bad, hbad, hunread, herror⟩ := Wkt.readPairs_eq_badCoordinate hmem hpair
  refine ⟨bad, ⟨body, hbody, hbad, hunread⟩, ?_⟩
  simp only [ofText, Wkt.readRing, hbody, herror]

omit [Coordinate R] in
theorem mem_moveVertex {index : Nat} {position v : Point R}
    (hq : p.moveVertex index position = .ok q) (hv : v ∈ q.vertices) :
    v ∈ p.vertices ∨ v = position := by
  unfold moveVertex at hq
  split at hq
  · cases hq
    exact List.mem_or_eq_of_mem_set hv
  · cases hq

omit [Coordinate R] in
theorem mem_insertVertex {index : Nat} {position v : Point R}
    (hq : p.insertVertex index position = .ok q) (hv : v ∈ q.vertices) :
    v ∈ p.vertices ∨ v = position := by
  unfold insertVertex at hq
  split at hq
  · next hindex =>
    cases hq
    exact ((List.mem_insertIdx hindex).mp hv).symm
  · cases hq

end Polygon

end PlaceSearch
