-- SUMMARY: What an edit does to a form, accepted or rejected.
import PlaceSearch.Session.Form

namespace PlaceSearch.Form

variable {R : Type} [Coordinate R] {f g : Form R}

/-- An edited polygon replaces the present one, and its text with it. -/
theorem editPolygon_eq_ok {change : Polygon R → Except GeometryFault (Polygon R)}
    (h : f.editPolygon change = .ok g) :
    ∃ p q, f.polygon = some p ∧ change p = .ok q ∧
      g = { f with polygon := some q, polygonText := q.toText } := by
  unfold editPolygon at h
  split at h
  · cases h
  · next p hp =>
    split at h
    · next q hq => cases h; exact ⟨p, q, hp, hq, rfl⟩
    · cases h

theorem map_finitePoint_eq_ok {p : Point R} {change : Point R → Form R}
    (h : (finitePoint p).map change = .ok g) : g = change p := by
  unfold finitePoint at h
  split at h
  · cases h; rfl
  · cases h

theorem map_finitePoint?_eq_ok {p : Option (Point R)} {change : Option (Point R) → Form R}
    (h : (finitePoint? p).map change = .ok g) : g = change p := by
  cases p with
  | none => cases h; rfl
  | some p =>
    simp only [finitePoint?, finitePoint] at h
    split at h
    · cases h; rfl
    · cases h

omit [Coordinate R] in
@[simp] theorem select_lastQuery (f : Form R) (change : Selection → Selection) :
    (f.select change).lastQuery = f.lastQuery := rfl

omit [Coordinate R] in
@[simp] theorem addTag_lastQuery (f : Form R) (name : String) :
    (f.addTag name).lastQuery = f.lastQuery := by
  rw [addTag]

/-- No accepted edit brings a query back. -/
theorem edit_lastQuery {e : Edit R} (h : f.edit e = .ok g) : g.lastQuery = f.lastQuery := by
  cases e with
  | setCenter center => rw [map_finitePoint_eq_ok h]
  | setOrigin origin => rw [map_finitePoint?_eq_ok h]
  | setDestination destination => rw [map_finitePoint?_eq_ok h]
  | moveVertex index position =>
    obtain ⟨p, q, -, -, rfl⟩ := editPolygon_eq_ok h
    rfl
  | insertVertex index position =>
    obtain ⟨p, q, -, -, rfl⟩ := editPolygon_eq_ok h
    rfl
  | drawPolygon vertices =>
    simp only [edit] at h
    split at h
    · cases h; rfl
    · cases h
  | pasteText text =>
    simp only [edit] at h
    split at h
    · cases h; rfl
    · cases h
  | setAttribute name enabled =>
    cases enabled with
    | false => cases h; rfl
    | true =>
      simp only [edit] at h
      split at h
      · cases h; rfl
      · cases h
  | addRegionTag name => cases h; exact f.addTag_lastQuery name
  | addPlaceType type => cases h; exact f.select_lastQuery _
  | addBrandName name => cases h; exact f.select_lastQuery _
  | _ => cases h; rfl

omit [Coordinate R] in
theorem afterRejection_lastQuery (e : Edit R) : (f.afterRejection e).lastQuery = f.lastQuery := by
  cases e <;> rfl

/-- An edit is made on the form without its last query, or rejected by it. -/
theorem apply_cases (f : Form R) (e : Edit R) :
    (∃ g, f.forgetQuery.edit e = .ok g ∧ f.apply e = (g, .ok ())) ∨
      ∃ fault, f.forgetQuery.edit e = .error fault ∧
        f.apply e = (f.forgetQuery.afterRejection e, .error fault) := by
  unfold apply
  cases h : f.forgetQuery.edit e with
  | ok g => exact Or.inl ⟨g, rfl, rfl⟩
  | error fault => exact Or.inr ⟨fault, rfl, rfl⟩

/-- After an edit there is no last query, whether the edit was accepted or not. -/
theorem apply_lastQuery (f : Form R) (e : Edit R) : (f.apply e).1.lastQuery = none := by
  obtain ⟨g, hg, happly⟩ | ⟨fault, -, happly⟩ := f.apply_cases e
  · rw [happly]
    exact edit_lastQuery hg
  · rw [happly]
    exact afterRejection_lastQuery e

end PlaceSearch.Form

namespace PlaceSearch.Watched

/-- Whoever watches a form does not change what an edit does to it. -/
theorem apply_form {R : Type} [Coordinate R] (w : Watched R) (e : Edit R) :
    (w.apply e).1.form = (w.form.apply e).1 := by
  unfold apply
  obtain ⟨g, -, happly⟩ | ⟨fault, -, happly⟩ := w.form.apply_cases e
  · rw [happly]
  · rw [happly]

end PlaceSearch.Watched
