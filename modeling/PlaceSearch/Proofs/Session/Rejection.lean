-- SUMMARY: When an edit is rejected and why, what a rejected edit leaves behind, and what observers are told.
import PlaceSearch.Proofs.Session.Form

/-!
# Rejected edits

Every reason to reject an edit is an objection with a fault of its own, read off
the edit and the polygon of the form. A rejected edit forgets the last query and
changes nothing else, except that a pasted text stays visible. Observers are
told of accepted edits only, each with the form after it.
-/

namespace PlaceSearch

variable {R : Type} [Coordinate R]

/-! ## Objections -/

/-- What speaks against an edit of a form, and the fault it is rejected with. -/
inductive Form.Objection (f : Form R) : Edit R → Fault → Prop where
  | center {p : Point R} (h : p.isFinite = false) :
      Objection f (.setCenter p) (.geometry (.badCoordinate p.render))
  | origin {p : Point R} (h : p.isFinite = false) :
      Objection f (.setOrigin (some p)) (.geometry (.badCoordinate p.render))
  | destination {p : Point R} (h : p.isFinite = false) :
      Objection f (.setDestination (some p)) (.geometry (.badCoordinate p.render))
  | fewVertices {vertices : List (Point R)} (h : vertices.length < 3) :
      Objection f (.drawPolygon vertices) (.geometry (.tooFewVertices 3 vertices.length))
  /-- The first vertex that is not finite is named. -/
  | badVertex {vertices : List (Point R)} {v : Point R} (hlength : 3 ≤ vertices.length)
      (hfirst : vertices.find? (fun v => !v.isFinite) = some v) :
      Objection f (.drawPolygon vertices) (.geometry (.badCoordinate v.render))
  | text {text : String} {fault : GeometryFault}
      (h : (Polygon.ofText text : Except GeometryFault (Polygon R)) = .error fault) :
      Objection f (.pasteText text) (.geometry fault)
  | nothingToMove {index : Nat} {position : Point R} (h : f.polygon = none) :
      Objection f (.moveVertex index position) (.geometry .noPolygon)
  | moveOutOfRange {index : Nat} {position : Point R} {p : Polygon R} (hp : f.polygon = some p)
      (h : p.vertices.length ≤ index) :
      Objection f (.moveVertex index position)
        (.geometry (.vertexOutOfRange index p.vertices.length))
  | nothingToInsertInto {index : Nat} {position : Point R} (h : f.polygon = none) :
      Objection f (.insertVertex index position) (.geometry .noPolygon)
  | insertOutOfRange {index : Nat} {position : Point R} {p : Polygon R} (hp : f.polygon = some p)
      (h : p.vertices.length < index) :
      Objection f (.insertVertex index position)
        (.geometry (.vertexOutOfRange index p.vertices.length))
  | badName {name : String} (h : Sql.isName name.toList = false) :
      Objection f (.setAttribute name true) (.filter (.invalidIdentifier name))

namespace Form

variable {f : Form R} {e : Edit R} {fault : Fault}

/-- Only the polygon of a form gives rise to objections. -/
theorem Objection.of_polygon_eq {g : Form R} (h : f.Objection e fault)
    (hpolygon : g.polygon = f.polygon) : g.Objection e fault := by
  cases h with
  | center h => exact .center h
  | origin h => exact .origin h
  | destination h => exact .destination h
  | fewVertices h => exact .fewVertices h
  | badVertex hlength hfirst => exact .badVertex hlength hfirst
  | text h => exact .text h
  | nothingToMove h => exact .nothingToMove (hpolygon.trans h)
  | moveOutOfRange hp h => exact .moveOutOfRange (hpolygon.trans hp) h
  | nothingToInsertInto h => exact .nothingToInsertInto (hpolygon.trans h)
  | insertOutOfRange hp h => exact .insertOutOfRange (hpolygon.trans hp) h
  | badName h => exact .badName h

theorem map_finitePoint_eq_error {p : Point R} {change : Point R → Form R} :
    (finitePoint p).map change = .error fault ↔
      p.isFinite = false ∧ fault = .geometry (.badCoordinate p.render) := by
  unfold finitePoint
  cases h : p.isFinite with
  | true => simp [Except.map]
  | false => simp [Except.map, eq_comm]

theorem map_finitePoint?_eq_error {p : Option (Point R)} {change : Option (Point R) → Form R} :
    (finitePoint? p).map change = .error fault ↔
      ∃ q ∈ p, q.isFinite = false ∧ fault = .geometry (.badCoordinate q.render) := by
  cases p with
  | none => simp [finitePoint?, Except.map]
  | some p =>
    unfold finitePoint? finitePoint
    cases h : p.isFinite with
    | true => simp [Except.map, h]
    | false =>
      simp only [Except.map, Bool.false_eq_true, if_false, Except.error.injEq, Option.mem_def,
        Option.some.injEq, exists_eq_left', h, true_and]
      exact eq_comm

theorem editPolygon_eq_error {change : Polygon R → Except GeometryFault (Polygon R)} :
    f.editPolygon change = .error fault ↔
      (f.polygon = none ∧ fault = .geometry .noPolygon) ∨
        ∃ p reason, f.polygon = some p ∧ change p = .error reason ∧ fault = .geometry reason := by
  unfold editPolygon
  cases hp : f.polygon with
  | none => simp [eq_comm]
  | some p =>
    cases hchange : change p with
    | ok q => simp [hchange]
    | error reason => simp [hchange, eq_comm]

end Form

omit [Coordinate R] in
theorem Selection.addAttribute_eq_error {s : Selection} {name : String} {fault : FilterFault} :
    s.addAttribute name = .error fault ↔
      Sql.isName name.toList = false ∧ fault = .invalidIdentifier name := by
  unfold addAttribute Sql.Identifier.ofString?
  by_cases h : Sql.isName name.toList = true
  · simp [h]
  · simp [h, eq_comm]

theorem Polygon.ofVertices_eq_error {vertices : List (Point R)} {fault : GeometryFault} :
    ofVertices vertices = .error fault ↔
      (vertices.length < 3 ∧ fault = .tooFewVertices 3 vertices.length) ∨
        ∃ v, 3 ≤ vertices.length ∧ vertices.find? (fun v => !v.isFinite) = some v ∧
          fault = .badCoordinate v.render := by
  unfold ofVertices minDrawn
  by_cases hlength : 3 ≤ vertices.length
  · have hnot : ¬ vertices.length < 3 := Nat.not_lt.mpr hlength
    cases hfirst : vertices.find? fun v => !v.isFinite with
    | none => simp [hlength, hnot]
    | some v => simp [hlength, hnot, eq_comm]
  · have hfew : vertices.length < 3 := Nat.lt_of_not_le hlength
    simp [hlength, hfew, eq_comm]

omit [Coordinate R] in
theorem Polygon.moveVertex_eq_error {p : Polygon R} {index : Nat} {position : Point R}
    {fault : GeometryFault} :
    p.moveVertex index position = .error fault ↔
      p.vertices.length ≤ index ∧ fault = .vertexOutOfRange index p.vertices.length := by
  unfold moveVertex
  by_cases h : index < p.vertices.length
  · simp [h, Nat.not_le.mpr h]
  · simp [h, Nat.le_of_not_lt h, eq_comm]

omit [Coordinate R] in
theorem Polygon.insertVertex_eq_error {p : Polygon R} {index : Nat} {position : Point R}
    {fault : GeometryFault} :
    p.insertVertex index position = .error fault ↔
      p.vertices.length < index ∧ fault = .vertexOutOfRange index p.vertices.length := by
  unfold insertVertex
  by_cases h : index ≤ p.vertices.length
  · simp [h, Nat.not_lt.mpr h]
  · simp [h, Nat.lt_of_not_le h, eq_comm]

namespace Form

variable {f : Form R} {e : Edit R} {fault : Fault}

/-- An edit fails with exactly the faults of the objections to it. -/
theorem edit_eq_error_iff : f.edit e = .error fault ↔ f.Objection e fault := by
  constructor
  · intro h
    cases e with
    | setCenter center =>
      obtain ⟨hfinite, rfl⟩ := map_finitePoint_eq_error.mp h
      exact .center hfinite
    | setOrigin origin =>
      obtain ⟨p, rfl, hfinite, rfl⟩ := map_finitePoint?_eq_error.mp h
      exact .origin hfinite
    | setDestination destination =>
      obtain ⟨p, rfl, hfinite, rfl⟩ := map_finitePoint?_eq_error.mp h
      exact .destination hfinite
    | drawPolygon vertices =>
      simp only [edit] at h
      split at h
      · cases h
      · next reason hreason =>
        cases h
        obtain ⟨hfew, rfl⟩ | ⟨v, hlength, hfirst, rfl⟩ := Polygon.ofVertices_eq_error.mp hreason
        · exact .fewVertices hfew
        · exact .badVertex hlength hfirst
    | pasteText text =>
      simp only [edit] at h
      split at h
      · cases h
      · next reason hreason => cases h; exact .text hreason
    | moveVertex index position =>
      obtain ⟨hnone, rfl⟩ | ⟨p, reason, hp, hmove, rfl⟩ := editPolygon_eq_error.mp h
      · exact .nothingToMove hnone
      · obtain ⟨hrange, rfl⟩ := Polygon.moveVertex_eq_error.mp hmove
        exact .moveOutOfRange hp hrange
    | insertVertex index position =>
      obtain ⟨hnone, rfl⟩ | ⟨p, reason, hp, hinsert, rfl⟩ := editPolygon_eq_error.mp h
      · exact .nothingToInsertInto hnone
      · obtain ⟨hrange, rfl⟩ := Polygon.insertVertex_eq_error.mp hinsert
        exact .insertOutOfRange hp hrange
    | setAttribute name enabled =>
      cases enabled with
      | false => cases h
      | true =>
        simp only [edit] at h
        split at h
        · cases h
        · next reason hreason =>
          cases h
          obtain ⟨hname, rfl⟩ := Selection.addAttribute_eq_error.mp hreason
          exact .badName hname
    | _ => cases h
  · intro h
    cases h with
    | center h => exact map_finitePoint_eq_error.mpr ⟨h, rfl⟩
    | origin h => exact map_finitePoint?_eq_error.mpr ⟨_, rfl, h, rfl⟩
    | destination h => exact map_finitePoint?_eq_error.mpr ⟨_, rfl, h, rfl⟩
    | fewVertices h => simp only [edit, Polygon.ofVertices_eq_error.mpr (Or.inl ⟨h, rfl⟩)]
    | badVertex hlength hfirst =>
      simp only [edit, Polygon.ofVertices_eq_error.mpr (Or.inr ⟨_, hlength, hfirst, rfl⟩)]
    | text h => simp only [edit, h]
    | nothingToMove h => exact editPolygon_eq_error.mpr (Or.inl ⟨h, rfl⟩)
    | moveOutOfRange hp h =>
      exact editPolygon_eq_error.mpr
        (Or.inr ⟨_, _, hp, Polygon.moveVertex_eq_error.mpr ⟨h, rfl⟩, rfl⟩)
    | nothingToInsertInto h => exact editPolygon_eq_error.mpr (Or.inl ⟨h, rfl⟩)
    | insertOutOfRange hp h =>
      exact editPolygon_eq_error.mpr
        (Or.inr ⟨_, _, hp, Polygon.insertVertex_eq_error.mpr ⟨h, rfl⟩, rfl⟩)
    | badName h => simp only [edit, Selection.addAttribute_eq_error.mpr ⟨h, rfl⟩]

/-- The verdict on an edit is a fault exactly if it is the fault of an objection. -/
theorem apply_eq_error_iff : (f.apply e).2 = .error fault ↔ f.Objection e fault := by
  have hedit : f.forgetQuery.edit e = .error fault ↔ f.Objection e fault := by
    rw [edit_eq_error_iff]
    constructor
    · intro h
      exact h.of_polygon_eq rfl
    · intro h
      exact h.of_polygon_eq rfl
  rw [← hedit]
  obtain ⟨g, hg, happly⟩ | ⟨reason, hreason, happly⟩ := f.apply_cases e
  · simp [happly, hg]
  · simp [happly, hreason]

/-- What a rejected edit leaves behind. -/
theorem apply_form_of_error (h : (f.apply e).2 = .error fault) :
    (f.apply e).1 = f.forgetQuery.afterRejection e := by
  obtain ⟨g, -, happly⟩ | ⟨reason, -, happly⟩ := f.apply_cases e
  · rw [happly] at h
    cases h
  · rw [happly]

end Form

/-! ## Observers -/

/-- The edits of a sequence that are accepted, each with the form after it. -/
def Form.accepted (f : Form R) : List (Edit R) → List (Edit R × Form R)
  | [] => []
  | e :: rest =>
    match f.apply e with
    | (g, .ok ()) => (e, g) :: g.accepted rest
    | (g, .error _) => g.accepted rest

/-- What is accepted of a sequence is what is accepted of its first edit, then of the rest. -/
theorem Form.accepted_cons (f : Form R) (e : Edit R) (rest : List (Edit R)) :
    f.accepted (e :: rest) = f.accepted [e] ++ (f.apply e).1.accepted rest := by
  simp only [accepted]
  obtain ⟨g, -, happly⟩ | ⟨fault, -, happly⟩ := f.apply_cases e
  · rw [happly]
    rfl
  · rw [happly]
    rfl

namespace Watched

/-- Edits one after the other, whatever becomes of each. -/
def applyAll (w : Watched R) (edits : List (Edit R)) : Watched R :=
  edits.foldl (fun w e => (w.apply e).1) w

/-- Observers do not change the verdict on an edit. -/
theorem apply_verdict (w : Watched R) (e : Edit R) : (w.apply e).2 = (w.form.apply e).2 := by
  unfold apply
  obtain ⟨g, -, happly⟩ | ⟨fault, -, happly⟩ := w.form.apply_cases e
  · rw [happly]
  · rw [happly]

/-- One edit is told to every observer if it is accepted, and to none if not. -/
theorem observers_apply (w : Watched R) (e : Edit R) :
    (w.apply e).1.observers = w.observers.map (· ++ w.form.accepted [e]) := by
  unfold apply Form.accepted
  obtain ⟨g, -, happly⟩ | ⟨fault, -, happly⟩ := w.form.apply_cases e
  · rw [happly]
    rfl
  · rw [happly]
    simp [Form.accepted]

/-- Every observer hears of the accepted edits of a sequence, in order. -/
theorem observers_applyAll (w : Watched R) (edits : List (Edit R)) :
    (w.applyAll edits).observers = w.observers.map (· ++ w.form.accepted edits) := by
  induction edits generalizing w with
  | nil => simp [applyAll, Form.accepted]
  | cons e rest ih =>
    have hrest := ih (w.apply e).1
    rw [observers_apply, apply_form, List.map_map] at hrest
    rw [applyAll, List.foldl_cons, ← applyAll, hrest, w.form.accepted_cons e rest]
    simp [Function.comp_def]

end Watched

/-- How a form with its observers takes edits. -/
structure Watched.TakesEdits (w : Watched R) : Prop where
  /-- An edit is rejected exactly if there is an objection to it, with the fault of that objection. -/
  rejected_iff : ∀ e fault, (w.apply e).2 = .error fault ↔ w.form.Objection e fault
  /-- A rejected text stays visible and is marked. -/
  rejected_text : ∀ text fault, (w.apply (.pasteText text)).2 = .error fault →
    (w.apply (.pasteText text)).1.form =
      { w.form with lastQuery := none, polygonText := text, polygonTextInvalid := true }
  /-- Any other rejected edit changes nothing but the last query. -/
  rejected_other : ∀ e fault, (∀ text, e ≠ .pasteText text) → (w.apply e).2 = .error fault →
    (w.apply e).1.form = { w.form with lastQuery := none }
  /-- Every observer hears of each accepted edit of a sequence once, in order, with
      the form after it, and of no rejected one. -/
  told : ∀ edits, (w.applyAll edits).observers = w.observers.map (· ++ w.form.accepted edits)

/-- Every form takes edits this way, in whatever state it is and whoever observes it. -/
theorem Watched.takesEdits (w : Watched R) : w.TakesEdits where
  rejected_iff e fault := by
    rw [w.apply_verdict]
    exact Form.apply_eq_error_iff
  rejected_text text fault h := by
    rw [w.apply_verdict] at h
    rw [w.apply_form, Form.apply_form_of_error h]
    rfl
  rejected_other e fault hother h := by
    rw [w.apply_verdict] at h
    rw [w.apply_form, Form.apply_form_of_error h]
    cases e with
    | pasteText text => exact absurd rfl (hother text)
    | _ => rfl
  told edits := w.observers_applyAll edits

end PlaceSearch
