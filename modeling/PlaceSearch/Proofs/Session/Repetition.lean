-- SUMMARY: Repeating an edit is harmless, unless it puts one more vertex into the polygon.
import PlaceSearch.Proofs.Distinct
import PlaceSearch.Proofs.Session.Rejection
import PlaceSearch.Proofs.Session.Sequence

/-!
# Repeated edits

An edit sets an input, adds an entry to a list that holds none twice, or takes entries
away, and a rejected one shows the same text as before. So an edit that has been made
comes to nothing on its own result, with the same verdict, however often it is made.
The one exception is a vertex put into the polygon, which grows each time.
-/

namespace PlaceSearch

/-! ## Lists and polygons -/

theorem Distinct.add_add {α : Type} [DecidableEq α] (xs : List α) (x : α) :
    add (add xs x) x = add xs x :=
  add_of_mem (mem_add.mpr (Or.inr rfl))

namespace Selection

theorem addText_addText (xs : List String) (text : String) :
    addText (addText xs text) text = addText xs text := by
  simp only [addText]
  split
  · rfl
  · exact Distinct.add_add xs _

theorem addAttribute_again {s t : Selection} {name : String} (h : s.addAttribute name = .ok t) :
    t.addAttribute name = .ok t := by
  unfold addAttribute at h ⊢
  split at h
  · cases h
    simp only [Distinct.add_add]
  · cases h

end Selection

variable {R : Type}

namespace Polygon

theorem moveVertex_again {p q : Polygon R} {index : Nat} {position : Point R}
    (h : p.moveVertex index position = .ok q) : q.moveVertex index position = .ok q := by
  unfold moveVertex at h ⊢
  split at h
  · next hindex =>
    cases h
    simp only [List.length_set, hindex, if_true, List.set_set]
  · cases h

theorem length_insertVertex {p q : Polygon R} {index : Nat} {position : Point R}
    (h : p.insertVertex index position = .ok q) : q.vertices.length = p.vertices.length + 1 := by
  unfold insertVertex at h
  split at h
  · next hindex =>
    cases h
    exact List.length_insertIdx_of_le_length hindex position
  · cases h

end Polygon

namespace Form

/-! ## Accepted edits -/

/-- The blank name stands for the typed one only once, as it is used up. -/
theorem addTag_addTag (f : Form R) (name : String) :
    (f.addTag name).addTag name = f.addTag name := by
  have hnone : (Resolved.regionName "").isEmpty = true := by decide
  cases hblank : (Text.trim name).isEmpty with
  | true => simp only [addTag, hblank, if_true, hnone]
  | false =>
    simp only [addTag, hblank, Bool.false_eq_true, if_false]
    split
    · rfl
    · rw [Distinct.add_add]

variable [Coordinate R] {f g : Form R} {e : Edit R}

omit [Coordinate R] in
/-- What is checked apart from the form is checked again with the same result. -/
theorem map_again {α : Type} {checked : Except Fault α} (change : Form R → α → Form R)
    (hchange : ∀ f a, change (change f a) a = change f a) (h : checked.map (change f) = .ok g) :
    checked.map (change g) = .ok g := by
  cases checked with
  | ok a =>
    cases h
    exact congrArg Except.ok (hchange f a)
  | error fault => cases h

theorem editPolygon_again {change : Polygon R → Except GeometryFault (Polygon R)}
    (hchange : ∀ p q, change p = .ok q → change q = .ok q) (h : f.editPolygon change = .ok g) :
    g.editPolygon change = .ok g := by
  obtain ⟨p, q, -, hq, rfl⟩ := editPolygon_eq_ok h
  simp only [editPolygon, hchange p q hq]

/-- An accepted edit is accepted on its own result and leaves it as it is, unless it
    inserts a vertex. -/
theorem edit_again (h : f.edit e = .ok g) (he : ∀ index position, e ≠ .insertVertex index position) :
    g.edit e = .ok g := by
  cases e with
  | setCenter center =>
    exact map_again (fun f c => { f with center := some c }) (fun _ _ => rfl) h
  | setOrigin origin =>
    exact map_again (fun f o => { f with ends := { f.ends with origin := o } })
      (fun _ _ => rfl) h
  | setDestination destination =>
    exact map_again (fun f d => { f with ends := { f.ends with destination := d } })
      (fun _ _ => rfl) h
  | drawPolygon vertices =>
    simp only [edit] at h ⊢
    split at h
    · cases h; rfl
    · cases h
  | pasteText text =>
    simp only [edit] at h ⊢
    split at h
    · cases h; rfl
    · cases h
  | moveVertex index position =>
    exact editPolygon_again (fun p q hmoved => Polygon.moveVertex_again hmoved) h
  | insertVertex index position => exact absurd rfl (he index position)
  | addRegionTag name => cases h; exact congrArg Except.ok (f.addTag_addTag name)
  | addPlaceType type =>
    cases h
    simp only [edit, select, Selection.addPlaceType, Selection.addText_addText]
  | addBrandName name =>
    cases h
    simp only [edit, select, Selection.addBrandName, Selection.addText_addText]
  | removeRegionTag tag => cases h; simp only [edit, List.filter_filter, Bool.and_self]
  | removePlaceType type => cases h; simp only [edit, select, List.filter_filter, Bool.and_self]
  | removeBrandName name => cases h; simp only [edit, select, List.filter_filter, Bool.and_self]
  | setAttribute name enabled =>
    cases enabled with
    | false => cases h; simp only [edit, select, List.filter_filter, Bool.and_self]
    | true =>
      simp only [edit] at h ⊢
      split at h
      · next s hs =>
        cases h
        simp only [select, Selection.addAttribute_again hs]
      · cases h
  | _ => cases h; rfl

/-! ## Any edit -/

omit [Coordinate R] in
theorem afterRejection_again (f : Form R) (e : Edit R) :
    (f.forgetQuery.afterRejection e).forgetQuery.afterRejection e =
      f.forgetQuery.afterRejection e := by
  cases e <;> rfl

/-- What speaks against an edit speaks against it when it has been rejected. -/
theorem Objection.again {fault : Fault} (h : f.Objection e fault) :
    (f.forgetQuery.afterRejection e).Objection e fault := by
  apply h.of_polygon_eq
  cases e <;> rfl

/-- The edit puts a vertex into the polygon of the form. -/
def Inserts (f : Form R) (e : Edit R) : Prop :=
  ∃ index position, e = .insertVertex index position ∧ (f.apply e).2 = .ok ()

/-- An edit that inserts nothing comes to nothing the second time. -/
theorem apply_apply (h : ¬ f.Inserts e) : (f.apply e).1.apply e = f.apply e := by
  -- an accepted edit is made once more on its result, a rejected one meets the same objection
  obtain ⟨g, hg, happly⟩ | ⟨fault, -, happly⟩ := f.apply_cases e
  · have he : ∀ index position, e ≠ .insertVertex index position := by
      rintro index position rfl
      exact h ⟨index, position, rfl, congrArg Prod.snd happly⟩
    have hkept := f.forgetQuery_apply e
    rw [happly] at hkept ⊢
    rw [apply, hkept, edit_again hg he]
  · have hobjection : f.Objection e fault := apply_eq_error_iff.mp (congrArg Prod.snd happly)
    have hverdict := apply_eq_error_iff.mpr hobjection.again
    rw [happly]
    apply Prod.ext
    · rw [apply_form_of_error hverdict]
      exact f.afterRejection_again e
    · exact hverdict

/-- There is a polygon, and it has one vertex more afterwards. -/
theorem Inserts.grows (h : f.Inserts e) :
    ∃ p q, f.polygon = some p ∧ (f.apply e).1.polygon = some q ∧
      q.vertices.length = p.vertices.length + 1 := by
  obtain ⟨index, position, rfl, hverdict⟩ := h
  obtain ⟨g, hg, happly⟩ | ⟨fault, -, happly⟩ := f.apply_cases (.insertVertex index position)
  · obtain ⟨p, q, hp, hq, rfl⟩ := editPolygon_eq_ok hg
    refine ⟨p, q, hp, ?_, Polygon.length_insertVertex hq⟩
    rw [happly]
  · rw [happly] at hverdict
    cases hverdict

theorem Inserts.apply_apply_ne (h : f.Inserts e) : (f.apply e).1.apply e ≠ f.apply e := by
  intro hsame
  have hagain : (f.apply e).1.Inserts e := by
    obtain ⟨index, position, he, hverdict⟩ := h
    exact ⟨index, position, he, (congrArg Prod.snd hsame).trans hverdict⟩
  obtain ⟨p, q, hp, hq, hlonger⟩ := hagain.grows
  have hpq : p = q := by
    rw [hsame, hp] at hq
    exact Option.some.inj hq
  rw [hpq] at hlonger
  exact absurd hlonger (Nat.ne_of_lt (Nat.lt_succ_self _))

/-! ## Any number of times -/

/-- Made twice in a row or more often, the edit leads to the form that it leads to when
    it is made once, and is judged the same each time. -/
structure AbsorbsRepeats (f : Form R) (e : Edit R) : Prop where
  form_eq : ∀ n, f.applyAll (List.replicate (n + 1) e) = (f.apply e).1
  judged_eq : ∀ n, f.judged (List.replicate (n + 1) e) = List.replicate (n + 1) (e, (f.apply e).2)

/-- An edit that comes to nothing the second time comes to nothing from then on. -/
theorem absorbsRepeats_of_apply_apply (h : (f.apply e).1.apply e = f.apply e) :
    f.AbsorbsRepeats e := by
  constructor
  · intro n
    induction n with
    | zero => rfl
    | succ n ih =>
      rw [List.replicate_succ, applyAll_cons] at ih ⊢
      rw [List.replicate_succ, applyAll_cons, h, ih]
  · intro n
    induction n with
    | zero => rfl
    | succ n ih =>
      rw [List.replicate_succ, judged_cons] at ih ⊢
      rw [List.replicate_succ, judged_cons, h, ih]
      rfl

/-- From any form, repeating an edit is harmless exactly if it does not insert a vertex. -/
theorem absorbsRepeats_iff (f : Form R) (e : Edit R) : f.AbsorbsRepeats e ↔ ¬ f.Inserts e := by
  constructor
  · intro h hinserts
    apply hinserts.apply_apply_ne
    apply Prod.ext
    · exact h.form_eq 1
    · have hjudged := (List.cons.inj (h.judged_eq 1)).2
      exact (Prod.mk.inj (List.cons.inj hjudged).1).2
  · intro h
    exact absorbsRepeats_of_apply_apply (apply_apply h)

end Form

end PlaceSearch
