-- SUMMARY: Reading a polygon that was written gives its closed ring.
import PlaceSearch.Geo.Wkt
import PlaceSearch.Proofs.Geo.Coordinate
import PlaceSearch.Proofs.Text.Split

/-!
# Geometry texts, written and read

Numerals hold none of the characters by which a polygon text is taken apart:
parentheses, commas and white space. So each stage of the reader finds exactly
what the writer put there, from the opening parentheses down to the two numbers
of a pair.
-/

namespace PlaceSearch.Wkt

variable {R : Type} [Coordinate R]

/-! ## Pairs -/

/-- A numeral is no parenthesis, so none is stripped of it. -/
theorem stripWhile_render {x : R} (h : Coordinate.Legible x) {paren : Char}
    (hparen : paren.toNat < 45) :
    Text.stripWhile (· == paren) (Coordinate.render x).toList = (Coordinate.render x).toList := by
  apply Text.stripWhile_eq_self
  intro c hc
  have hlow := (toNat_mem_of_isNumeral (h.isNumeral c hc)).1
  rw [beq_eq_false_iff_ne]
  rintro rfl
  omega

theorem words_renderLngLat {p : Point R} (h : p.Legible) :
    Text.words p.renderLngLat.toList =
      [(Coordinate.render p.lng).toList, (Coordinate.render p.lat).toList] := by
  have hword : ∀ x : R, Coordinate.Legible x →
      Text.words (Coordinate.render x).toList = [(Coordinate.render x).toList] := by
    intro x hx
    apply Text.words_eq_singleton
    · simpa using hx.ne_empty
    · exact fun c hc => isBlank_of_isNumeral (hx.isNumeral c hc)
  have hspace : (" " : String).toList = [' '] := rfl
  rw [Point.renderLngLat, String.toList_append, String.toList_append, hspace, List.append_assoc,
    List.singleton_append, Text.words_append_cons (by decide), hword _ h.lng, hword _ h.lat]
  rfl

/-- A written pair reads back. -/
theorem readPair?_renderLngLat {p : Point R} (h : p.Legible) :
    readPair? p.renderLngLat.toList = some p := by
  rw [readPair?, words_renderLngLat h]
  dsimp only
  rw [stripWhile_render h.lng (by decide), stripWhile_render h.lat (by decide),
    String.ofList_toList, String.ofList_toList, h.lng.read, h.lat.read]
  rfl

/-- White space in front of a pair is passed over, also in the message about a bad one. -/
theorem readPairs_splitOn_cons {c : Char} (hc : Text.isBlank c = true) (hcomma : c ≠ ',')
    (cs : List Char) :
    (readPairs (Text.splitOn ',' (c :: cs)) : Except GeometryFault (List (Point R))) =
      readPairs (Text.splitOn ',' cs) := by
  obtain ⟨pair, pairs, hpairs, hcons⟩ := Text.splitOn_cons_of_ne hcomma cs
  rw [hcons, hpairs, readPairs, readPairs, readPair?, readPair?,
    Text.words_cons hc, Text.trimChars_cons hc]

/-! ## Rings -/

theorem toList_renderPairs_cons_cons (p q : Point R) (rest : List (Point R)) :
    (renderPairs (p :: q :: rest)).toList =
      p.renderLngLat.toList ++ ',' :: ' ' :: (renderPairs (q :: rest)).toList := by
  simp [renderPairs, String.toList_intercalate]

@[simp] theorem renderPairs_singleton (p : Point R) : renderPairs [p] = p.renderLngLat := by
  simp [renderPairs]

/-- A character of a written pair is one of a numeral, or the space between the numbers. -/
theorem mem_renderLngLat {p : Point R} (h : p.Legible) {c : Char}
    (hc : c ∈ p.renderLngLat.toList) : isNumeral c = true ∨ c = ' ' := by
  simp only [Point.renderLngLat, String.toList_append, List.mem_append] at hc
  obtain (hlng | hspace) | hlat := hc
  · exact Or.inl (h.lng.isNumeral c hlng)
  · exact Or.inr (List.mem_singleton.mp hspace)
  · exact Or.inl (h.lat.isNumeral c hlat)

theorem notMem_renderLngLat {p : Point R} (h : p.Legible) {c : Char} (hnumeral : isNumeral c = false)
    (hspace : c ≠ ' ') : c ∉ p.renderLngLat.toList := by
  intro hc
  obtain hc | hc := mem_renderLngLat h hc
  · rw [hnumeral] at hc
    cases hc
  · exact hspace hc

theorem comma_notMem_renderLngLat {p : Point R} (h : p.Legible) : ',' ∉ p.renderLngLat.toList :=
  notMem_renderLngLat h (by decide) (by decide)

/-- Written pairs read back in order. -/
theorem readPairs_renderPairs {p : Point R} {rest : List (Point R)}
    (h : ∀ q ∈ p :: rest, q.Legible) :
    readPairs (Text.splitOn ',' (renderPairs (p :: rest)).toList) = .ok (p :: rest) := by
  have hp := h p List.mem_cons_self
  induction rest generalizing p with
  | nil =>
    rw [renderPairs_singleton, Text.splitOn_eq_singleton (comma_notMem_renderLngLat hp), readPairs,
      readPair?_renderLngLat hp]
    rfl
  | cons q rest ih =>
    have hrest : ∀ x ∈ q :: rest, x.Legible := fun x hx => h x (List.mem_cons_of_mem p hx)
    have hread := ih hrest (hrest q List.mem_cons_self)
    rw [← readPairs_splitOn_cons (c := ' ') (by decide) (by decide)] at hread
    rw [toList_renderPairs_cons_cons, Text.splitOn_append_cons,
      Text.splitOn_eq_singleton (comma_notMem_renderLngLat hp), List.singleton_append, readPairs,
      readPair?_renderLngLat hp]
    dsimp only
    rw [hread]
    rfl

/-- No parenthesis stands among written pairs. -/
theorem paren_notMem_renderPairs {points : List (Point R)} (h : ∀ p ∈ points, p.Legible) :
    ')' ∉ (renderPairs points).toList := by
  induction points with
  | nil => exact List.not_mem_nil
  | cons p rest ih =>
    have hhead : ')' ∉ p.renderLngLat.toList :=
      notMem_renderLngLat (h p List.mem_cons_self) (by decide) (by decide)
    have htail := ih fun q hq => h q (List.mem_cons_of_mem p hq)
    cases rest with
    | nil => rwa [renderPairs_singleton]
    | cons q rest =>
      rw [toList_renderPairs_cons_cons]
      simp only [List.mem_append, List.mem_cons, not_or]
      exact ⟨hhead, by decide, by decide, htail⟩

/-- Written pairs start with the numeral of a longitude. -/
theorem startsVisibly_renderPairs {p : Point R} (h : p.Legible) (rest : List (Point R)) :
    Text.StartsVisibly (renderPairs (p :: rest)).toList := by
  have hpair : Text.StartsVisibly p.renderLngLat.toList := by
    rw [Point.renderLngLat, String.toList_append, String.toList_append, List.append_assoc]
    apply Text.StartsVisibly.append
    cases hlng : (Coordinate.render p.lng).toList with
    | nil => exact absurd (String.toList_eq_nil_iff.mp hlng) h.lng.ne_empty
    | cons c cs =>
      rw [Text.startsVisibly_cons]
      exact isBlank_of_isNumeral (h.lng.isNumeral c (hlng ▸ List.mem_cons_self))
  cases rest with
  | nil => rwa [renderPairs_singleton]
  | cons q rest =>
    rw [toList_renderPairs_cons_cons]
    exact hpair.append _

/-! ## Polygons -/

theorem beforeLastClosing?_eq_none {cs : List Char} (h : ')' ∉ cs) :
    beforeLastClosing? cs = none := by
  induction cs with
  | nil => rfl
  | cons c cs ih =>
    rw [List.mem_cons, not_or] at h
    rw [beforeLastClosing?, ih h.2]
    exact if_neg fun hclosing => h.1 hclosing.1.symm

/-- What precedes the closing parentheses is all up to them, if none follows. -/
theorem beforeLastClosing?_append {tail : List Char} (htail : ')' ∉ tail) (body : List Char) :
    beforeLastClosing? (body ++ ')' :: ')' :: tail) = some body := by
  induction body with
  | nil =>
    have hlast : beforeLastClosing? (')' :: tail) = none := by
      rw [beforeLastClosing?, beforeLastClosing?_eq_none htail]
      exact if_neg fun hclosing => htail (List.mem_of_mem_head? hclosing.2)
    rw [List.nil_append, beforeLastClosing?, hlast]
    rfl
  | cons c body ih =>
    rw [List.cons_append, beforeLastClosing?, ih]

/-- Without a closing parenthesis there is only one ring. -/
theorem firstRing_eq_self {cs : List Char} (h : ')' ∉ cs) : firstRing cs = cs := by
  induction cs with
  | nil => rfl
  | cons c cs ih =>
    rw [List.mem_cons, not_or] at h
    rw [firstRing, ih h.2]
    rintro _ rfl
    exact absurd rfl h.1

theorem body?_polygon {body : List Char} (h : Text.StartsVisibly body) :
    body? ("POLYGON((" ++ String.ofList body ++ "))") = some body := by
  have hopening : findOpening? ("POLYGON((".toList ++ (body ++ [')', ')'])) =
      some (body ++ [')', ')']) := rfl
  have htext : ("POLYGON((" ++ String.ofList body ++ "))").toList =
      "POLYGON((".toList ++ (body ++ [')', ')']) := by
    simp
  rw [body?, htext, hopening, Option.bind_some, beforeLastClosing?_append List.not_mem_nil,
    Option.filter_some, if_pos (by simpa using h.trimChars_ne_nil)]

/-- The text of a ring reads back as the ring. -/
theorem readRing_renderPairs {p : Point R} {rest : List (Point R)}
    (h : ∀ q ∈ p :: rest, q.Legible) :
    readRing ("POLYGON((" ++ renderPairs (p :: rest) ++ "))") = .ok (p :: rest) := by
  have hbody := body?_polygon (startsVisibly_renderPairs (h p List.mem_cons_self) rest)
  rw [String.ofList_toList] at hbody
  rw [readRing, hbody]
  dsimp only
  rw [firstRing_eq_self (paren_notMem_renderPairs h), readPairs_renderPairs h]

/-! ## Closed rings -/

theorem closed_eq {vertices : List (Point R)} (hne : vertices ≠ []) :
    closed vertices =
      if vertices.head hne == vertices.getLast hne then vertices
      else vertices ++ [vertices.head hne] := by
  rw [closed, List.head?_eq_some_head hne, List.getLast?_eq_some_getLast hne]
  cases hends : vertices.head hne == vertices.getLast hne with
  | true => simp [bne, hends]
  | false => simp [bne, hends]

/-- Closing a ring repeats a vertex of it, or nothing. -/
theorem mem_of_mem_closed {vertices : List (Point R)} {p : Point R} (h : p ∈ closed vertices) :
    p ∈ vertices := by
  by_cases hne : vertices = []
  · subst hne
    exact h
  · rw [closed_eq hne] at h
    split at h
    · exact h
    · obtain h | h := List.mem_append.mp h
      · exact h
      · rw [List.mem_singleton.mp h]
        exact List.head_mem hne

/-- Closing keeps the first vertex. -/
theorem exists_closed_eq_cons (p : Point R) (rest : List (Point R)) :
    ∃ more, closed (p :: rest) = p :: more := by
  rw [closed_eq (List.cons_ne_nil p rest)]
  split
  · exact ⟨rest, rfl⟩
  · exact ⟨rest ++ [p], rfl⟩

/-- A closed ring stays as it is, if its first vertex equals itself. -/
theorem closed_closed {vertices : List (Point R)} (h : ∀ p ∈ vertices.head?, (p == p) = true) :
    closed (closed vertices) = closed vertices := by
  by_cases hne : vertices = []
  · rw [hne]
    rfl
  · have hself := h _ (List.head?_eq_some_head hne)
    rw [closed_eq hne]
    split
    · next hclosed => rw [closed_eq hne, if_pos hclosed]
    · rw [closed_eq (List.append_ne_nil_of_left_ne_nil hne _), if_pos]
      rw [List.head_append_of_ne_nil hne, List.getLast_concat]
      exact hself

/-- The text of a polygon reads back as the closed ring, if its coordinates are legible. -/
theorem readRing_polygon_of_legible {vertices : List (Point R)} (hne : vertices ≠ [])
    (h : ∀ p ∈ vertices, p.Legible) : readRing (polygon vertices) = .ok (closed vertices) := by
  obtain ⟨p, rest, rfl⟩ := List.exists_cons_of_ne_nil hne
  obtain ⟨more, hmore⟩ := exists_closed_eq_cons p rest
  have hlegible : ∀ q ∈ p :: more, q.Legible := by
    intro q hq
    exact h q (mem_of_mem_closed (hmore ▸ hq))
  rw [polygon, hmore]
  exact readRing_renderPairs hlegible

/-- A closed ring has the same text as the vertices it closes. -/
theorem polygon_closed {vertices : List (Point R)} (h : ∀ p ∈ vertices.head?, (p == p) = true) :
    polygon (closed vertices) = polygon vertices := by
  rw [polygon, polygon, closed_closed h]

/-! ## Finite vertices -/

/-- Finite vertices whose coordinates read back one by one survive being written
    as a polygon: its text reads as the ring closed, and writing that ring gives
    the same text again. -/
theorem readRing_polygon {vertices : List (Point Degrees)} (hne : vertices ≠ [])
    (hfinite : ∀ p ∈ vertices, p.isFinite = true)
    (hread : ∀ p ∈ vertices, p.lat.ReadsBack ∧ p.lng.ReadsBack) :
    readRing (polygon vertices) = .ok (closed vertices) ∧
      closed vertices =
        (if vertices.head hne == vertices.getLast hne then vertices
          else vertices ++ [vertices.head hne]) ∧
      polygon (closed vertices) = polygon vertices := by
  have hlegible : ∀ p ∈ vertices, p.Legible := by
    intro p hp
    exact Point.legible (hfinite p hp) (hread p hp).1 (hread p hp).2
  have hself : ∀ p ∈ vertices.head?, (p == p) = true := by
    intro p hp
    exact Point.beq_self (hfinite p (List.mem_of_mem_head? hp))
  exact ⟨readRing_polygon_of_legible hne hlegible, closed_eq hne, polygon_closed hself⟩

/-- A triangle across the zero meridian, with a negative zero and a fraction far below one. -/
theorem readRing_polygon_triangle :
    let vertices : List (Point Degrees) :=
      [⟨.ofFloat 51.5, .ofFloat (-0.0)⟩, ⟨.ofFloat 52.25, .ofFloat (-0.0000001)⟩,
        ⟨.ofFloat 51, .ofFloat 0.1⟩]
    (∀ p ∈ vertices, p.isFinite = true) ∧
      (∀ p ∈ vertices, p.lat.ReadsBack ∧ p.lng.ReadsBack) ∧
      readRing (polygon vertices) = .ok (vertices ++ [⟨.ofFloat 51.5, .ofFloat (-0.0)⟩]) := by
  intro vertices
  have hfinite : ∀ p ∈ vertices, p.isFinite = true := by decide +kernel
  have hread : ∀ p ∈ vertices, p.lat.ReadsBack ∧ p.lng.ReadsBack := by decide +kernel
  obtain ⟨hring, hclosed, -⟩ := readRing_polygon (by decide) hfinite hread
  have hopen : (vertices.head (by decide) == vertices.getLast (by decide)) = false := by
    decide +kernel
  rw [hclosed, hopen] at hring
  exact ⟨hfinite, hread, hring⟩

end PlaceSearch.Wkt
