-- SUMMARY: Which coordinates of a form are finite, and which edits are rejected because they are not.
import PlaceSearch.Proofs.Geo.Finite
import PlaceSearch.Proofs.Session.History
import PlaceSearch.Proofs.Session.Rejection

/-!
# Finite coordinates

Clicks, route ends and drawn or pasted polygons are checked before they enter a
form. The place to which a vertex is moved or where one is inserted is not: it
is the one way by which a coordinate that is not finite gets in.
-/

namespace PlaceSearch

variable {R : Type}

/-! ## The points of an edit -/

namespace Edit

/-- The points of an edit that are checked before they are taken. -/
def points : Edit R → List (Point R)
  | .setCenter p => [p]
  | .drawPolygon vertices => vertices
  | .setOrigin p | .setDestination p => p.toList
  | _ => []

/-- The place to which a vertex is moved or where one is inserted. -/
def position? : Edit R → Option (Point R)
  | .moveVertex _ p | .insertVertex _ p => some p
  | _ => none

end Edit

variable [Coordinate R]

/-! ## Edits with points that are not finite -/

namespace Form

variable {f g : Form R}

/-- An edit with such a point is rejected for the first one, or for too few vertices. -/
theorem objection_of_points {e : Edit R} {p : Point R} (hp : p ∈ e.points)
    (hinfinite : p.isFinite = false) :
    (∃ q ∈ e.points, q.isFinite = false ∧ f.Objection e (.geometry (.badCoordinate q.render))) ∨
      (e = .drawPolygon e.points ∧ e.points.length < 3 ∧
        f.Objection e (.geometry (.tooFewVertices 3 e.points.length))) := by
  cases e with
  | setCenter center =>
    obtain rfl := List.mem_singleton.mp hp
    exact Or.inl ⟨p, hp, hinfinite, .center hinfinite⟩
  | setOrigin origin =>
    obtain rfl := Option.mem_toList.mp hp
    exact Or.inl ⟨p, hp, hinfinite, .origin hinfinite⟩
  | setDestination destination =>
    obtain rfl := Option.mem_toList.mp hp
    exact Or.inl ⟨p, hp, hinfinite, .destination hinfinite⟩
  | drawPolygon vertices =>
    by_cases hlength : 3 ≤ vertices.length
    · have hbad : (vertices.find? fun v => !v.isFinite).isSome = true :=
        List.find?_isSome.mpr ⟨p, hp, by rw [hinfinite]; rfl⟩
      obtain ⟨q, hq⟩ := Option.isSome_iff_exists.mp hbad
      have hqinfinite : q.isFinite = false := by simpa using List.find?_some hq
      exact Or.inl ⟨q, List.mem_of_find?_eq_some hq, hqinfinite, .badVertex hlength hq⟩
    · have hfew : vertices.length < 3 := Nat.lt_of_not_le hlength
      exact Or.inr ⟨rfl, hfew, .fewVertices hfew⟩
  | _ => cases hp

/-- The checked points of an accepted edit are finite. -/
theorem isFinite_of_edit_eq_ok {e : Edit R} (he : f.edit e = .ok g) :
    ∀ p ∈ e.points, p.isFinite = true := by
  intro p hp
  rw [← Bool.not_eq_false]
  intro hinfinite
  have hobjection : ∃ fault, f.Objection e fault := by
    obtain ⟨q, -, -, hq⟩ | ⟨-, -, hfew⟩ := objection_of_points (f := f) hp hinfinite
    · exact ⟨_, hq⟩
    · exact ⟨_, hfew⟩
  obtain ⟨fault, hfault⟩ := hobjection
  rw [edit_eq_error_iff.mpr hfault] at he
  cases he

/-- Edits with the same objections get the same verdict. -/
theorem apply_verdict_congr {e e' : Edit R}
    (h : ∀ fault, f.Objection e fault ↔ f.Objection e' fault) :
    (f.apply e).2 = (f.apply e').2 := by
  cases he : (f.apply e).2 with
  | error fault => rw [apply_eq_error_iff.mpr ((h fault).mp (apply_eq_error_iff.mp he))]
  | ok _ =>
    cases he' : (f.apply e').2 with
    | error fault =>
      rw [apply_eq_error_iff.mpr ((h fault).mpr (apply_eq_error_iff.mp he'))] at he
      cases he
    | ok _ => rfl

theorem Objection.moveVertex_place {index : Nat} {p : Point R} {fault : Fault}
    (h : f.Objection (.moveVertex index p) fault) (q : Point R) :
    f.Objection (.moveVertex index q) fault := by
  cases h with
  | nothingToMove h => exact .nothingToMove h
  | moveOutOfRange hp h => exact .moveOutOfRange hp h

theorem Objection.insertVertex_place {index : Nat} {p : Point R} {fault : Fault}
    (h : f.Objection (.insertVertex index p) fault) (q : Point R) :
    f.Objection (.insertVertex index q) fault := by
  cases h with
  | nothingToInsertInto h => exact .nothingToInsertInto h
  | insertOutOfRange hp h => exact .insertOutOfRange hp h

end Form

/-! ## Points of a form -/

namespace Form

/-- Every point of the form is finite, except for vertices that are `placed`. -/
structure FiniteExcept (placed : Point R → Prop) (f : Form R) : Prop where
  center : ∀ p ∈ f.center, p.isFinite = true
  origin : ∀ p ∈ f.ends.origin, p.isFinite = true
  destination : ∀ p ∈ f.ends.destination, p.isFinite = true
  vertices : ∀ p ∈ f.polygon, ∀ v ∈ p.vertices, v.isFinite = true ∨ placed v

variable {f g : Form R} {placed more : Point R → Prop}

theorem FiniteExcept.mono (h : f.FiniteExcept placed) (hmore : ∀ v, placed v → more v) :
    f.FiniteExcept more :=
  { h with vertices := fun p hp v hv => (h.vertices p hp v hv).imp_right (hmore v) }

theorem FiniteExcept.of_eq (h : f.FiniteExcept placed) (hcenter : g.center = f.center)
    (hends : g.ends = f.ends) (hpolygon : g.polygon = f.polygon) : g.FiniteExcept placed where
  center := hcenter ▸ h.center
  origin := hends ▸ h.origin
  destination := hends ▸ h.destination
  vertices := hpolygon ▸ h.vertices

theorem FiniteExcept.withPolygon (h : f.FiniteExcept placed) {p : Polygon R}
    (hp : ∀ v ∈ p.vertices, v.isFinite = true ∨ placed v) (hcenter : g.center = f.center)
    (hends : g.ends = f.ends) (hpolygon : g.polygon = some p) : g.FiniteExcept placed where
  center := hcenter ▸ h.center
  origin := hends ▸ h.origin
  destination := hends ▸ h.destination
  vertices q hq := by
    rw [hpolygon] at hq
    cases hq
    exact hp

theorem finiteExcept_resetTo (f : Form R) (mode : Mode) : (f.resetTo mode).FiniteExcept placed where
  center := by rintro p ⟨⟩
  origin := by rintro p ⟨⟩
  destination := by rintro p ⟨⟩
  vertices := by rintro p ⟨⟩

theorem FiniteExcept.select (h : f.FiniteExcept placed) (change : Selection → Selection) :
    (f.select change).FiniteExcept placed :=
  h.of_eq rfl rfl rfl

theorem FiniteExcept.addTag (h : f.FiniteExcept placed) (name : String) :
    (f.addTag name).FiniteExcept placed := by
  rw [Form.addTag]
  exact h.of_eq rfl rfl rfl

/-- An accepted edit brings in finite points only, apart from the place of a vertex edit. -/
theorem FiniteExcept.edit (h : f.FiniteExcept placed) {e : Edit R} (he : f.edit e = .ok g)
    (hplaced : ∀ v, e.position? = some v → placed v) : g.FiniteExcept placed := by
  -- Most edits leave the points alone, the others check them or start afresh; only
  -- the two vertex edits need the exception.
  cases e with
  | setMode mode => cases he; exact finiteExcept_resetTo f mode
  | reset => cases he; exact finiteExcept_resetTo f f.mode
  | setCenter center =>
    have hcenter := isFinite_of_edit_eq_ok he
    rw [map_finitePoint_eq_ok he]
    exact { h with center := by rintro p ⟨⟩; exact hcenter center List.mem_cons_self }
  | setOrigin origin =>
    have horigin := isFinite_of_edit_eq_ok he
    rw [map_finitePoint?_eq_ok he]
    exact { h with origin := fun p hp => horigin p (Option.mem_toList.mpr hp) }
  | setDestination destination =>
    have hdestination := isFinite_of_edit_eq_ok he
    rw [map_finitePoint?_eq_ok he]
    exact { h with destination := fun p hp => hdestination p (Option.mem_toList.mpr hp) }
  | drawPolygon vertices =>
    simp only [Form.edit] at he
    split at he
    · next p hp =>
      have hfinite := Polygon.isFinite_of_ofVertices hp
      cases he
      exact h.withPolygon (fun v hv => Or.inl (hfinite v hv)) rfl rfl rfl
    · cases he
  | pasteText text =>
    simp only [Form.edit] at he
    split at he
    · next p hp =>
      have hfinite := Polygon.isFinite_of_ofText hp
      cases he
      exact h.withPolygon (fun v hv => Or.inl (hfinite v hv)) rfl rfl rfl
    · cases he
  | moveVertex index position =>
    obtain ⟨p, q, hp, hq, rfl⟩ := editPolygon_eq_ok he
    refine h.withPolygon (fun v hv => ?_) rfl rfl rfl
    obtain hold | rfl := Polygon.mem_moveVertex hq hv
    · exact h.vertices p hp v hold
    · exact Or.inr (hplaced v rfl)
  | insertVertex index position =>
    obtain ⟨p, q, hp, hq, rfl⟩ := editPolygon_eq_ok he
    refine h.withPolygon (fun v hv => ?_) rfl rfl rfl
    obtain hold | rfl := Polygon.mem_insertVertex hq hv
    · exact h.vertices p hp v hold
    · exact Or.inr (hplaced v rfl)
  | setAttribute name enabled =>
    cases enabled with
    | false => cases he; exact h.select _
    | true =>
      simp only [Form.edit] at he
      split at he
      · cases he; exact h.select _
      · cases he
  | addRegionTag name => cases he; exact h.addTag name
  | addPlaceType type => cases he; exact h.select _
  | addBrandName name => cases he; exact h.select _
  | _ => cases he; exact h.of_eq rfl rfl rfl

omit [Coordinate R] in
/-- A rejected edit leaves center, route ends and polygon alone. -/
theorem afterRejection_geometry (f : Form R) (e : Edit R) :
    (f.afterRejection e).center = f.center ∧ (f.afterRejection e).ends = f.ends ∧
      (f.afterRejection e).polygon = f.polygon := by
  cases e <;> exact ⟨rfl, rfl, rfl⟩

theorem FiniteExcept.apply (h : f.FiniteExcept placed) {e : Edit R}
    (hplaced : (f.apply e).2 = .ok () → ∀ v, e.position? = some v → placed v) :
    (f.apply e).1.FiniteExcept placed := by
  have hforgotten : f.forgetQuery.FiniteExcept placed := h.of_eq rfl rfl rfl
  obtain ⟨g, hg, happly⟩ | ⟨fault, -, happly⟩ := f.apply_cases e
  · rw [happly] at hplaced ⊢
    exact hforgotten.edit hg (hplaced rfl)
  · obtain ⟨hcenter, hends, hpolygon⟩ := f.forgetQuery.afterRejection_geometry e
    rw [happly]
    exact hforgotten.of_eq hcenter hends hpolygon

theorem FiniteExcept.formAfter (h : f.FiniteExcept placed) (outcome : Except Fault (Outcome R)) :
    (Run.formAfter f outcome).FiniteExcept placed := by
  obtain hform | ⟨text, hform⟩ := Run.formAfter_cases f outcome
  · rwa [hform]
  · rw [hform]
    exact h.of_eq rfl rfl rfl

end Form

/-! ## Histories -/

omit [Coordinate R] in
/-- An accepted vertex edit of the log moved or inserted a vertex to this place. -/
def Placed (log : List (Happening R)) (v : Point R) : Prop :=
  ∃ e, .edit e (.ok ()) ∈ log ∧ e.position? = some v

omit [Coordinate R] in
theorem Placed.later {log : List (Happening R)} {v : Point R} (h : Placed log v)
    (x : Happening R) : Placed (x :: log) v := by
  obtain ⟨e, hmem, hv⟩ := h
  exact ⟨e, List.mem_cons_of_mem x hmem, hv⟩

theorem History.finiteExcept {ringOf : String → Option (List (Point R))} {territory : Territory}
    {defaults : FormDefaults} {log : List (Happening R)} {f : Form R}
    (h : History ringOf territory defaults log f) : f.FiniteExcept (Placed log) := by
  induction h with
  | start => exact Form.finiteExcept_resetTo _ .circle
  | @edit log f h e ih =>
    have hearlier := ih.mono fun v hv => hv.later (.edit e (f.apply e).2)
    apply hearlier.apply
    intro haccepted v hv
    rw [haccepted]
    exact ⟨e, List.mem_cons_self, hv⟩
  | @run log f h services ih =>
    have hearlier := ih.mono fun v hv =>
      hv.later (.run services (Run.perform services ringOf territory f).value.2)
    exact hearlier.formAfter _

/-! ## All together -/

/-- Which points of a form with this log are finite, and which edits are rejected
    because a point is not. A vertex that is not finite is where an accepted edit
    moved or inserted one. -/
structure Form.FiniteUnlessPlaced (log : List (Happening R)) (f : Form R) : Prop
    extends f.FiniteExcept (Placed log) where
  /-- A click, a route end or a drawing is rejected for the first point that is not
      finite, a drawing with too few vertices for their number. -/
  rejected : ∀ e, ∀ p ∈ e.points, p.isFinite = false →
    (∃ q ∈ e.points, q.isFinite = false ∧
        (f.apply e).2 = .error (.geometry (.badCoordinate q.render))) ∨
      (e = .drawPolygon e.points ∧ e.points.length < 3 ∧
        (f.apply e).2 = .error (.geometry (.tooFewVertices 3 e.points.length)))
  /-- A text is rejected for a pair that is not read as two finite coordinates. -/
  rejected_text : ∀ text pair, Wkt.Unread R text pair →
    ∃ bad, Wkt.Unread R text bad ∧ (f.apply (.pasteText text)).2 =
      .error (.geometry (.badCoordinate (String.ofList (Text.trimChars bad))))
  /-- A rejected edit leaves the geometry alone. -/
  unchanged : ∀ e fault, (f.apply e).2 = .error fault →
    (f.apply e).1.center = f.center ∧ (f.apply e).1.ends = f.ends ∧
      (f.apply e).1.polygon = f.polygon
  /-- Whether a vertex edit is accepted does not depend on the place. -/
  move_unchecked : ∀ index p q,
    (f.apply (.moveVertex index p)).2 = (f.apply (.moveVertex index q)).2
  insert_unchecked : ∀ index p q,
    (f.apply (.insertVertex index p)).2 = (f.apply (.insertVertex index q)).2

theorem History.finiteUnlessPlaced {ringOf : String → Option (List (Point R))}
    {territory : Territory} {defaults : FormDefaults} {log : List (Happening R)} {f : Form R}
    (h : History ringOf territory defaults log f) : f.FiniteUnlessPlaced log where
  toFiniteExcept := h.finiteExcept
  rejected e p hp hinfinite := by
    obtain ⟨q, hq, hqinfinite, hobjection⟩ | ⟨hdrawn, hfew, hobjection⟩ :=
      Form.objection_of_points (f := f) hp hinfinite
    · exact Or.inl ⟨q, hq, hqinfinite, Form.apply_eq_error_iff.mpr hobjection⟩
    · exact Or.inr ⟨hdrawn, hfew, Form.apply_eq_error_iff.mpr hobjection⟩
  rejected_text text pair hpair := by
    obtain ⟨bad, hbad, herror⟩ := Polygon.ofText_eq_badCoordinate hpair
    exact ⟨bad, hbad, Form.apply_eq_error_iff.mpr (.text herror)⟩
  unchanged e fault hrejected := by
    rw [Form.apply_form_of_error hrejected]
    exact f.forgetQuery.afterRejection_geometry e
  move_unchecked index p q := by
    apply Form.apply_verdict_congr
    intro fault
    exact ⟨fun h => h.moveVertex_place q, fun h => h.moveVertex_place p⟩
  insert_unchecked index p q := by
    apply Form.apply_verdict_congr
    intro fault
    exact ⟨fun h => h.insertVertex_place q, fun h => h.insertVertex_place p⟩

/-- A drawn triangle survives a click on a place without a latitude. -/
theorem finiteUnlessPlaced_triangle :
    let berlin : Territory := ⟨.sample, "Berlin, Germany", "de"⟩
    ∃ (log : List (Happening Degrees)) (f : Form Degrees),
      History (fun _ => none) berlin .standard log f ∧ f.polygon.isSome = true ∧
      f.FiniteUnlessPlaced log := by
  intro berlin
  have hstart : History (fun _ => none) berlin .standard [] (Form.new (R := Degrees) .standard) :=
    .start
  have hdrawn := (hstart.edit (.setMode .polygon)).edit (.drawPolygon
    [⟨.ofFloat 52, .ofFloat 13⟩, ⟨.ofFloat 53, .ofFloat 13⟩, ⟨.ofFloat 52, .ofFloat 14⟩])
  have h := hdrawn.edit (.setCenter ⟨.ofFloat (0 / 0), .ofFloat 13⟩)
  exact ⟨_, _, h, by decide +kernel, h.finiteUnlessPlaced⟩

/-- Not every vertex is finite: one of a drawn triangle can be moved to a place
    without a latitude. -/
theorem not_forall_vertices_finite :
    let berlin : Territory := ⟨.sample, "Berlin, Germany", "de"⟩
    ¬ ∀ (log : List (Happening Degrees)) (f : Form Degrees),
      History (fun _ => none) berlin .standard log f →
        ∀ p ∈ f.polygon, ∀ v ∈ p.vertices, v.isFinite = true := by
  intro berlin hall
  have hstart : History (fun _ => none) berlin .standard [] (Form.new (R := Degrees) .standard) :=
    .start
  have hdrawn := (hstart.edit (.setMode .polygon)).edit (.drawPolygon
    [⟨.ofFloat 52, .ofFloat 13⟩, ⟨.ofFloat 53, .ofFloat 13⟩, ⟨.ofFloat 52, .ofFloat 14⟩])
  have hmoved := hdrawn.edit (.moveVertex 0 ⟨.ofFloat (0 / 0), .ofFloat 0⟩)
  have hfinite := hall _ _ hmoved
  revert hfinite
  decide +kernel

end PlaceSearch
