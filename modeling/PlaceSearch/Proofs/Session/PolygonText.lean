-- SUMMARY: The polygon of a form, the text shown for it and the mark on that text, through all edits and runs.
import PlaceSearch.Proofs.Geo.Wkt
import PlaceSearch.Proofs.Session.Finite

/-!
# The polygon and its text

A form shows its polygon as text, and six kinds of edit write polygon, text or
the mark of a rejected text. `Form.redrawn` lists what an edit can do to the
three. While the text is not marked, it is either the text of the polygon or what
the polygon was pasted from, so it reads back as the ring of the polygon. A mark
is right when it is set; a vertex edit replaces the text and leaves the mark.
-/

namespace PlaceSearch

variable {R : Type} [Coordinate R]

/-! ## One edit -/

/-- What an edit of `f` with this verdict does to the polygon, to its text and to the mark. -/
inductive Form.Redrawn (f g : Form R) : Edit R → Except Fault Unit → Prop where
  /-- Only an accepted vertex edit is sure to touch them. -/
  | untouched {e : Edit R} {verdict : Except Fault Unit}
      (he : verdict = .ok () → e.position? = none) (hpolygon : g.polygon = f.polygon)
      (htext : g.polygonText = f.polygonText)
      (hmark : g.polygonTextInvalid = f.polygonTextInvalid) : Redrawn f g e verdict
  | emptied {e : Edit R} (he : e.position? = none) (hpolygon : g.polygon = none)
      (htext : g.polygonText = "") (hmark : g.polygonTextInvalid = false) :
      Redrawn f g e (.ok ())
  | drawn {vertices : List (Point R)} {p : Polygon R} (hp : Polygon.ofVertices vertices = .ok p)
      (hpolygon : g.polygon = some p) (htext : g.polygonText = p.toText)
      (hmark : g.polygonTextInvalid = false) : Redrawn f g (.drawPolygon vertices) (.ok ())
  | pasted {text : String} {p : Polygon R} (hp : Polygon.ofText text = .ok p)
      (hpolygon : g.polygon = some p) (htext : g.polygonText = text)
      (hmark : g.polygonTextInvalid = false) : Redrawn f g (.pasteText text) (.ok ())
  | refused {text : String} {fault : GeometryFault}
      (hfault : (Polygon.ofText text : Except GeometryFault (Polygon R)) = .error fault)
      (hpolygon : g.polygon = f.polygon) (htext : g.polygonText = text)
      (hmark : g.polygonTextInvalid = true) :
      Redrawn f g (.pasteText text) (.error (.geometry fault))
  /-- A vertex edit shows the new polygon and leaves the mark as it is. -/
  | edited {e : Edit R} {p q : Polygon R} (he : e.position?.isSome = true)
      (hp : f.polygon = some p) (hpolygon : g.polygon = some q)
      (htext : g.polygonText = q.toText)
      (hmark : g.polygonTextInvalid = f.polygonTextInvalid) : Redrawn f g e (.ok ())

namespace Form

variable {f g : Form R}

theorem redrawn_select {e : Edit R} (he : e.position? = none) (change : Selection → Selection) :
    f.Redrawn (f.select change) e (.ok ()) :=
  .untouched (fun _ => he) rfl rfl rfl

/-- Six kinds of edit write the polygon or its text, all others leave both alone. -/
theorem redrawn_edit {e : Edit R} (h : f.edit e = .ok g) : f.Redrawn g e (.ok ()) := by
  cases e with
  | setMode mode => cases h; exact .emptied rfl rfl rfl rfl
  | reset => cases h; exact .emptied rfl rfl rfl rfl
  | setCenter center => rw [map_finitePoint_eq_ok h]; exact .untouched (fun _ => rfl) rfl rfl rfl
  | setOrigin origin => rw [map_finitePoint?_eq_ok h]; exact .untouched (fun _ => rfl) rfl rfl rfl
  | setDestination destination =>
    rw [map_finitePoint?_eq_ok h]
    exact .untouched (fun _ => rfl) rfl rfl rfl
  | drawPolygon vertices =>
    simp only [edit] at h
    split at h
    · next p hp => cases h; exact .drawn hp rfl rfl rfl
    · cases h
  | pasteText text =>
    simp only [edit] at h
    split at h
    · next p hp => cases h; exact .pasted hp rfl rfl rfl
    · cases h
  | moveVertex index position =>
    obtain ⟨p, q, hp, -, rfl⟩ := editPolygon_eq_ok h
    exact .edited rfl hp rfl rfl rfl
  | insertVertex index position =>
    obtain ⟨p, q, hp, -, rfl⟩ := editPolygon_eq_ok h
    exact .edited rfl hp rfl rfl rfl
  | setAttribute name enabled =>
    cases enabled with
    | false => cases h; exact redrawn_select rfl _
    | true =>
      simp only [edit] at h
      split at h
      · cases h; exact redrawn_select rfl _
      · cases h
  | addRegionTag name =>
    cases h
    rw [addTag]
    exact .untouched (fun _ => rfl) rfl rfl rfl
  | addPlaceType type => cases h; exact redrawn_select rfl _
  | addBrandName name => cases h; exact redrawn_select rfl _
  | _ => cases h; exact .untouched (fun _ => rfl) rfl rfl rfl

/-- What any edit does to the polygon, its text and the mark, accepted or rejected. -/
theorem redrawn (f : Form R) (e : Edit R) : f.Redrawn (f.apply e).1 e (f.apply e).2 := by
  obtain ⟨g, hg, happly⟩ | ⟨fault, hfault, happly⟩ := f.apply_cases e
  · rw [happly]
    -- Polygon, text and mark of the form do not depend on the last query.
    cases redrawn_edit hg with
    | untouched he hpolygon htext hmark => exact .untouched he hpolygon htext hmark
    | emptied he hpolygon htext hmark => exact .emptied he hpolygon htext hmark
    | drawn hp hpolygon htext hmark => exact .drawn hp hpolygon htext hmark
    | pasted hp hpolygon htext hmark => exact .pasted hp hpolygon htext hmark
    | edited he hp hpolygon htext hmark => exact .edited he hp hpolygon htext hmark
  · rw [happly]
    cases edit_eq_error_iff.mp hfault with
    | text h => exact .refused h rfl rfl rfl
    | _ => exact .untouched nofun rfl rfl rfl

end Form

omit [Coordinate R] in
/-- A run leaves polygon, text and mark alone. -/
theorem Run.formAfter_polygon (f : Form R) (outcome : Except Fault (Outcome R)) :
    (formAfter f outcome).polygon = f.polygon ∧
      (formAfter f outcome).polygonText = f.polygonText ∧
      (formAfter f outcome).polygonTextInvalid = f.polygonTextInvalid := by
  obtain h | ⟨text, h⟩ := formAfter_cases f outcome
  · rw [h]
    exact ⟨rfl, rfl, rfl⟩
  · rw [h]
    exact ⟨rfl, rfl, rfl⟩

/-! ## The text of a form that is not marked -/

namespace Form

/-- Without a mark there is neither polygon nor text, or the text is that of the
    polygon, or the one it was pasted from. -/
def ShowsPolygon (f : Form R) : Prop :=
  f.polygonTextInvalid = false →
    (f.polygon = none ∧ f.polygonText = "") ∨
      ∃ p, f.polygon = some p ∧
        (f.polygonText = p.toText ∨ Wkt.readRing f.polygonText = .ok p.vertices)

variable {f g : Form R}

theorem ShowsPolygon.of_eq (h : f.ShowsPolygon) (hpolygon : g.polygon = f.polygon)
    (htext : g.polygonText = f.polygonText)
    (hmark : g.polygonTextInvalid = f.polygonTextInvalid) : g.ShowsPolygon := by
  unfold ShowsPolygon
  rw [hpolygon, htext, hmark]
  exact h

theorem ShowsPolygon.redrawn (h : f.ShowsPolygon) {e : Edit R} {verdict : Except Fault Unit}
    (hg : f.Redrawn g e verdict) : g.ShowsPolygon := by
  cases hg with
  | untouched _ hpolygon htext hmark => exact h.of_eq hpolygon htext hmark
  | emptied _ hpolygon htext _ => exact fun _ => Or.inl ⟨hpolygon, htext⟩
  | drawn _ hpolygon htext _ => exact fun _ => Or.inr ⟨_, hpolygon, Or.inl htext⟩
  | pasted hp hpolygon htext _ =>
    intro _
    rw [htext]
    exact Or.inr ⟨_, hpolygon, Or.inr (Polygon.readRing_of_ofText hp)⟩
  | refused _ _ _ hmark =>
    intro hunmarked
    rw [hmark] at hunmarked
    cases hunmarked
  | edited _ _ hpolygon htext _ => exact fun _ => Or.inr ⟨_, hpolygon, Or.inl htext⟩

end Form

theorem History.showsPolygon {ringOf : String → Option (List (Point R))} {territory : Territory}
    {defaults : FormDefaults} {log : List (Happening R)} {f : Form R}
    (h : History ringOf territory defaults log f) : f.ShowsPolygon := by
  induction h with
  | start => exact fun _ => Or.inl ⟨rfl, rfl⟩
  | @edit log f h e ih => exact ih.redrawn (f.redrawn e)
  | @run log f h services ih =>
    obtain ⟨hpolygon, htext, hmark⟩ :=
      Run.formAfter_polygon f (Run.perform services ringOf territory f).value.2
    exact ih.of_eq hpolygon htext hmark

/-- While the text of a form is not marked, it reads as the polygon: there is neither,
    or closing the ring that is read gives the ring of the polygon. Vertices must have
    been moved and inserted to finite places only, and the numbers of the polygon must
    read back from their text. -/
theorem History.closed_readRing_polygonText {ringOf : String → Option (List (Point Degrees))}
    {territory : Territory} {defaults : FormDefaults} {log : List (Happening Degrees)}
    {f : Form Degrees} (h : History ringOf territory defaults log f)
    (hplaced : ∀ v, Placed log v → v.isFinite = true)
    (hread : ∀ p ∈ f.polygon, ∀ v ∈ p.vertices, v.lat.ReadsBack ∧ v.lng.ReadsBack)
    (hunmarked : f.polygonTextInvalid = false) :
    (f.polygon = none ∧ f.polygonText = "") ∨
      ∃ p ring, f.polygon = some p ∧ Wkt.readRing f.polygonText = .ok ring ∧
        Wkt.closed ring = p.ring := by
  obtain hempty | ⟨p, hp, hwritten | hpasted⟩ := h.showsPolygon hunmarked
  · exact Or.inl hempty
  · have hfinite : ∀ v ∈ p.vertices, v.isFinite = true := by
      intro v hv
      obtain hv | hv := h.finiteExcept.vertices p hp v hv
      · exact hv
      · exact hplaced v hv
    have hlegible : ∀ v ∈ p.vertices, v.Legible := by
      intro v hv
      obtain ⟨hlat, hlng⟩ := hread p hp v hv
      exact Point.legible (hfinite v hv) hlat hlng
    have hself : ∀ v ∈ p.vertices.head?, (v == v) = true := by
      intro v hv
      exact Point.beq_self (hfinite v (List.mem_of_mem_head? hv))
    refine Or.inr ⟨p, Wkt.closed p.vertices, hp, ?_, Wkt.closed_closed hself⟩
    rw [hwritten]
    exact Wkt.readRing_polygon_of_legible p.vertices_ne_nil hlegible
  · exact Or.inr ⟨p, p.vertices, hp, hpasted, rfl⟩

/-- A text pasted in vain, then a ring in small letters, then a vertex of it moved. -/
theorem closed_readRing_polygonText_moved :
    let berlin : Territory := ⟨.sample, "Berlin, Germany", "de"⟩
    ∃ (log : List (Happening Degrees)) (f : Form Degrees),
      History (fun _ => none) berlin .standard log f ∧
      (∀ v, Placed log v → v.isFinite = true) ∧
      (∀ p ∈ f.polygon, ∀ v ∈ p.vertices, v.lat.ReadsBack ∧ v.lng.ReadsBack) ∧
      f.polygonTextInvalid = false ∧
      ∃ p ring, f.polygon = some p ∧ Wkt.readRing f.polygonText = .ok ring ∧
        Wkt.closed ring = p.ring := by
  intro berlin
  let place : Point Degrees := ⟨.ofFloat 53.5, .ofFloat (-0.25)⟩
  have hstart : History (fun _ => none) berlin .standard [] (Form.new (R := Degrees) .standard) :=
    .start
  have hpasted := ((hstart.edit (.setMode .polygon)).edit (.pasteText "nonsense")).edit
    (.pasteText "polygon ((13 52,13 53 , 14 52, 13 52))")
  obtain ⟨log, f, h, hplaced, hread, hunmarked, hsome⟩ :
      ∃ (log : List (Happening Degrees)) (f : Form Degrees),
        History (fun _ => none) berlin .standard log f ∧
        (∀ v, Placed log v → v.isFinite = true) ∧
        (∀ p ∈ f.polygon, ∀ v ∈ p.vertices, v.lat.ReadsBack ∧ v.lng.ReadsBack) ∧
        f.polygonTextInvalid = false ∧ f.polygon.isSome = true := by
    refine ⟨_, _, hpasted.edit (.moveVertex 1 place), ?_, ?_, ?_, ?_⟩
    · rintro v ⟨e, hmem, hv⟩
      simp only [List.mem_cons, List.not_mem_nil, or_false, Happening.edit.injEq] at hmem
      obtain ⟨rfl, -⟩ | ⟨rfl, -⟩ | ⟨rfl, -⟩ | ⟨rfl, -⟩ := hmem
      · obtain rfl := Option.some.inj hv
        decide +kernel
      · cases hv
      · cases hv
      · cases hv
    · decide +kernel
    · decide +kernel
    · decide +kernel
  refine ⟨log, f, h, hplaced, hread, hunmarked, ?_⟩
  obtain ⟨hnone, -⟩ | hshown := h.closed_readRing_polygonText hplaced hread hunmarked
  · rw [hnone] at hsome
    cases hsome
  · exact hshown

/-! ## The mark on a rejected text -/

/-- A marked text is no polygon. -/
def Form.MarkTruthful (f : Form R) : Prop :=
  f.polygonTextInvalid = true →
    ∃ fault, (Polygon.ofText f.polygonText : Except GeometryFault (Polygon R)) = .error fault

namespace Form

variable {f g : Form R}

theorem MarkTruthful.of_eq (h : f.MarkTruthful) (htext : g.polygonText = f.polygonText)
    (hmark : g.polygonTextInvalid = f.polygonTextInvalid) : g.MarkTruthful := by
  unfold MarkTruthful
  rw [htext, hmark]
  exact h

theorem markTruthful_of_unmarked (h : f.polygonTextInvalid = false) : f.MarkTruthful := by
  intro hmark
  rw [h] at hmark
  cases hmark

/-- An edit leaves polygon, text and mark alone, or makes the mark right, or is a
    vertex edit, which shows the new polygon under the old mark. -/
theorem Redrawn.mark_cases {e : Edit R} {verdict : Except Fault Unit}
    (h : f.Redrawn g e verdict) :
    (g.polygon = f.polygon ∧ g.polygonText = f.polygonText ∧
        g.polygonTextInvalid = f.polygonTextInvalid) ∨
      g.MarkTruthful ∨
      (verdict = .ok () ∧ e.position?.isSome = true ∧
        g.polygonTextInvalid = f.polygonTextInvalid ∧
        ∃ p, g.polygon = some p ∧ g.polygonText = p.toText) := by
  cases h with
  | untouched _ hpolygon htext hmark => exact Or.inl ⟨hpolygon, htext, hmark⟩
  | emptied _ _ _ hmark => exact Or.inr (Or.inl (markTruthful_of_unmarked hmark))
  | drawn _ _ _ hmark => exact Or.inr (Or.inl (markTruthful_of_unmarked hmark))
  | pasted _ _ _ hmark => exact Or.inr (Or.inl (markTruthful_of_unmarked hmark))
  | refused hfault _ htext _ => exact Or.inr (Or.inl fun _ => ⟨_, htext ▸ hfault⟩)
  | edited he _ hpolygon htext hmark => exact Or.inr (Or.inr ⟨rfl, he, hmark, _, hpolygon, htext⟩)

/-- The mark is right, or a vertex edit has put the text of the polygon under it. -/
def MarkTruthfulUnlessEdited (log : List (Happening R)) (f : Form R) : Prop :=
  f.MarkTruthful ∨
    (∃ v, Placed log v) ∧ ∃ p, f.polygon = some p ∧ f.polygonText = p.toText

theorem MarkTruthfulUnlessEdited.later {log : List (Happening R)}
    (h : f.MarkTruthfulUnlessEdited log) (x : Happening R) (hpolygon : g.polygon = f.polygon)
    (htext : g.polygonText = f.polygonText)
    (hmark : g.polygonTextInvalid = f.polygonTextInvalid) :
    g.MarkTruthfulUnlessEdited (x :: log) := by
  obtain htruthful | ⟨⟨v, hv⟩, hedited⟩ := h
  · exact Or.inl (htruthful.of_eq htext hmark)
  · refine Or.inr ⟨⟨v, hv.later x⟩, ?_⟩
    rwa [hpolygon, htext]

theorem MarkTruthfulUnlessEdited.redrawn {log : List (Happening R)}
    (h : f.MarkTruthfulUnlessEdited log) {e : Edit R} {verdict : Except Fault Unit}
    (hg : f.Redrawn g e verdict) : g.MarkTruthfulUnlessEdited (.edit e verdict :: log) := by
  obtain ⟨hpolygon, htext, hmark⟩ | htruthful | ⟨rfl, he, -, hshown⟩ := hg.mark_cases
  · exact h.later _ hpolygon htext hmark
  · exact Or.inl htruthful
  · obtain ⟨v, hv⟩ := Option.isSome_iff_exists.mp he
    exact Or.inr ⟨⟨v, e, List.mem_cons_self, hv⟩, hshown⟩

/-- What makes and keeps the mark of a form right, and the one way in which it goes wrong. -/
structure MarkExplained (log : List (Happening R)) (f : Form R) : Prop where
  /-- A marked text is no polygon, unless it is the text of the polygon after a vertex edit. -/
  marked : f.MarkTruthfulUnlessEdited log
  /-- Only an accepted vertex edit of a form with a marked text makes a right mark wrong. -/
  misled : ∀ e, f.MarkTruthful → ¬ (f.apply e).1.MarkTruthful →
    f.polygonTextInvalid = true ∧ e.position?.isSome = true ∧ (f.apply e).2 = .ok ()
  /-- An accepted vertex edit shows the new polygon and leaves the mark as it was. -/
  kept : ∀ e, e.position?.isSome = true → (f.apply e).2 = .ok () →
    (f.apply e).1.polygonTextInvalid = f.polygonTextInvalid ∧
      ∃ p, (f.apply e).1.polygon = some p ∧ (f.apply e).1.polygonText = p.toText
  /-- Any other accepted edit that changes the text takes the mark away. -/
  cleared : ∀ e, e.position? = none → (f.apply e).2 = .ok () →
    (f.apply e).1.polygonText ≠ f.polygonText → (f.apply e).1.polygonTextInvalid = false

/-- An accepted vertex edit is no drawing, no pasting and no return to the defaults. -/
theorem Redrawn.of_vertexEdit {e : Edit R} {verdict : Except Fault Unit}
    (h : f.Redrawn g e verdict) (he : e.position?.isSome = true) (hverdict : verdict = .ok ()) :
    g.polygonTextInvalid = f.polygonTextInvalid ∧
      ∃ p, g.polygon = some p ∧ g.polygonText = p.toText := by
  cases h with
  | untouched hnone _ _ _ =>
    rw [hnone hverdict] at he
    cases he
  | emptied hnone _ _ _ =>
    rw [hnone] at he
    cases he
  | drawn _ _ _ _ => cases he
  | pasted _ _ _ _ => cases he
  | refused _ _ _ _ => cases he
  | edited _ _ hpolygon htext hmark => exact ⟨hmark, _, hpolygon, htext⟩

theorem Redrawn.unmarked_of_ne {e : Edit R} {verdict : Except Fault Unit}
    (h : f.Redrawn g e verdict) (he : e.position? = none) (hverdict : verdict = .ok ())
    (hne : g.polygonText ≠ f.polygonText) : g.polygonTextInvalid = false := by
  cases h with
  | untouched _ _ htext _ => exact absurd htext hne
  | emptied _ _ _ hmark => exact hmark
  | drawn _ _ _ hmark => exact hmark
  | pasted _ _ _ hmark => exact hmark
  | refused _ _ _ _ => cases hverdict
  | edited hsome _ _ _ _ =>
    rw [he] at hsome
    cases hsome

end Form

/-- The mark on the text of a form is right, but for a vertex edit after the text was rejected. -/
theorem History.markExplained {ringOf : String → Option (List (Point R))} {territory : Territory}
    {defaults : FormDefaults} {log : List (Happening R)} {f : Form R}
    (h : History ringOf territory defaults log f) : f.MarkExplained log where
  marked := by
    induction h with
    | start => exact Or.inl (Form.markTruthful_of_unmarked rfl)
    | @edit log f h e ih => exact ih.redrawn (f.redrawn e)
    | @run log f h services ih =>
      obtain ⟨hpolygon, htext, hmark⟩ :=
        Run.formAfter_polygon f (Run.perform services ringOf territory f).value.2
      exact ih.later _ hpolygon htext hmark
  misled e htruthful hmisled := by
    obtain ⟨-, htext, hmark⟩ | hright | ⟨hverdict, he, hmark, -⟩ := (f.redrawn e).mark_cases
    · exact absurd (htruthful.of_eq htext hmark) hmisled
    · exact absurd hright hmisled
    · refine ⟨?_, he, hverdict⟩
      rw [← hmark, ← Bool.not_eq_false]
      exact fun hunmarked => hmisled (Form.markTruthful_of_unmarked hunmarked)
  kept e he hverdict := (f.redrawn e).of_vertexEdit he hverdict
  cleared e he hverdict hne := (f.redrawn e).unmarked_of_ne he hverdict hne

/-- A text pasted in vain is marked, and a polygon drawn after it would clear the mark. -/
theorem markExplained_nonsense :
    let berlin : Territory := ⟨.sample, "Berlin, Germany", "de"⟩
    ∃ (log : List (Happening Degrees)) (f : Form Degrees),
      History (fun _ => none) berlin .standard log f ∧ f.polygonTextInvalid = true ∧
      f.MarkExplained log := by
  intro berlin
  have hstart : History (fun _ => none) berlin .standard [] (Form.new (R := Degrees) .standard) :=
    .start
  have h := (hstart.edit (.setMode .polygon)).edit (.pasteText "nonsense")
  exact ⟨_, _, h, by decide +kernel, h.markExplained⟩

/-- Not every marked text is no polygon: after a text was pasted in vain over a drawn
    triangle, moving a vertex shows the triangle, still marked. -/
theorem not_forall_markTruthful :
    let berlin : Territory := ⟨.sample, "Berlin, Germany", "de"⟩
    ¬ ∀ (log : List (Happening Degrees)) (f : Form Degrees),
      History (fun _ => none) berlin .standard log f → f.MarkTruthful := by
  intro berlin hall
  have hstart : History (fun _ => none) berlin .standard [] (Form.new (R := Degrees) .standard) :=
    .start
  have hdrawn := (hstart.edit (.setMode .polygon)).edit (.drawPolygon
    [⟨.ofFloat 52, .ofFloat 13⟩, ⟨.ofFloat 53, .ofFloat 13⟩, ⟨.ofFloat 52, .ofFloat 14⟩])
  have hmoved := (hdrawn.edit (.pasteText "nonsense")).edit
    (.moveVertex 2 ⟨.ofFloat 52, .ofFloat 15⟩)
  obtain ⟨fault, hfault⟩ := hall _ _ hmoved (by decide +kernel)
  have hunread : _ = false := congrArg Except.toBool hfault
  clear hfault
  revert hunread
  decide +kernel

end PlaceSearch
