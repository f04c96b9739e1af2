-- SUMMARY: Edits of the filters and edits of the area do not meet: any interleaving of them comes to the same.
import PlaceSearch.Proofs.Session.Sequence

/-!
# Independent edits

A form has two parts, its selection and everything else. An edit of the filters
reads and writes the selection only, and any other edit that is no reset reads and
writes the rest. So each of the two parts goes its own way, whatever happens to the
other part in between, and so does the verdict on each edit.
-/

namespace PlaceSearch

variable {R : Type}

namespace Edit

/-- Whether the edit is one of the filters. -/
def editsSelection : Edit R → Bool
  | .addPlaceType _ | .removePlaceType _ | .setPrimaryTypeOnly _ | .setAttribute _ _ | .setRating _
  | .setStatus _ | .addBrandName _ | .removeBrandName _ | .setBrandCategory _ | .setHours _ => true
  | _ => false

/-- Whether the edit takes all inputs back to their defaults. -/
def resets : Edit R → Bool
  | .setMode _ | .reset => true
  | _ => false

end Edit

namespace Form

/-- The form with another selection. -/
def withSelection (f : Form R) (s : Selection) : Form R := { f with selection := s }

@[simp] theorem withSelection_selection (f : Form R) (s : Selection) :
    (f.withSelection s).selection = s := rfl

@[simp] theorem withSelection_withSelection (f : Form R) (s t : Selection) :
    (f.withSelection s).withSelection t = f.withSelection t := rfl

@[simp] theorem withSelection_self (f : Form R) : f.withSelection f.selection = f := rfl

theorem forgetQuery_withSelection (f : Form R) (s : Selection) :
    (f.withSelection s).forgetQuery = f.forgetQuery.withSelection s := rfl

theorem afterRejection_withSelection (f : Form R) (s : Selection) (e : Edit R) :
    (f.withSelection s).afterRejection e = (f.afterRejection e).withSelection s := by
  cases e <;> rfl

theorem afterRejection_of_editsSelection (f : Form R) {e : Edit R} (he : e.editsSelection = true) :
    f.afterRejection e = f := by
  cases e with
  | pasteText text => cases he
  | _ => rfl

variable [Coordinate R]

/-! ## One edit -/

theorem editPolygon_withSelection (f : Form R) (s : Selection)
    (change : Polygon R → Except GeometryFault (Polygon R)) :
    (f.withSelection s).editPolygon change =
      (f.editPolygon change).map fun g => g.withSelection s := by
  have hpolygon : (f.withSelection s).polygon = f.polygon := rfl
  unfold editPolygon
  rw [hpolygon]
  cases f.polygon with
  | none => rfl
  | some p =>
    dsimp only
    cases change p <;> rfl

omit [Coordinate R] in
theorem addTag_withSelection (f : Form R) (s : Selection) (name : String) :
    (f.withSelection s).addTag name = (f.addTag name).withSelection s := by
  rw [addTag, addTag, withSelection, withSelection]

/-- An edit of the area does not see the selection. -/
theorem edit_withSelection {e : Edit R} (he : e.editsSelection = false) (hreset : e.resets = false)
    (f : Form R) (s : Selection) :
    (f.withSelection s).edit e = (f.edit e).map fun g => g.withSelection s := by
  cases e with
  | setMode mode => cases hreset
  | reset => cases hreset
  | setCenter center =>
    simp only [edit]
    cases finitePoint center <;> rfl
  | setOrigin origin =>
    simp only [edit]
    cases finitePoint? origin <;> rfl
  | setDestination destination =>
    simp only [edit]
    cases finitePoint? destination <;> rfl
  | drawPolygon vertices =>
    simp only [edit]
    cases Polygon.ofVertices vertices <;> rfl
  | pasteText text =>
    simp only [edit]
    cases (Polygon.ofText text : Except GeometryFault (Polygon R)) <;> rfl
  | moveVertex index position => exact f.editPolygon_withSelection s _
  | insertVertex index position => exact f.editPolygon_withSelection s _
  | addRegionTag name => exact congrArg Except.ok (f.addTag_withSelection s name)
  | addPlaceType _ | removePlaceType _ | setPrimaryTypeOnly _ | setAttribute _ _ | setRating _
  | setStatus _ | addBrandName _ | removeBrandName _ | setBrandCategory _ | setHours _ => cases he
  | _ => rfl

/-- An edit of the filters sees and changes the selection only. -/
theorem edit_of_editsSelection {e : Edit R} (he : e.editsSelection = true) (f g : Form R) :
    (g.withSelection f.selection).edit e =
      (f.edit e).map fun after => g.withSelection after.selection := by
  cases e with
  | setAttribute name enabled =>
    cases enabled with
    | false => rfl
    | true =>
      simp only [edit, withSelection_selection]
      cases f.selection.addAttribute name <;> rfl
  | addPlaceType _ | removePlaceType _ | setPrimaryTypeOnly _ | setRating _ | setStatus _
  | addBrandName _ | removeBrandName _ | setBrandCategory _ | setHours _ => rfl
  | _ => cases he

/-- What an edit of the area comes to is the same under any selection, which stays. -/
theorem apply_withSelection {e : Edit R} (he : e.editsSelection = false) (hreset : e.resets = false)
    (f : Form R) (s : Selection) :
    (f.withSelection s).apply e = ((f.apply e).1.withSelection s, (f.apply e).2) := by
  have hedit := edit_withSelection he hreset f.forgetQuery s
  simp only [apply, forgetQuery_withSelection, hedit, afterRejection_withSelection]
  cases f.forgetQuery.edit e <;> rfl

/-- What an edit of the filters comes to depends on the selection only, and nothing
    else changes but the last query. -/
theorem apply_of_editsSelection {e : Edit R} (he : e.editsSelection = true) (f g : Form R) :
    (g.withSelection f.selection).apply e =
      (g.forgetQuery.withSelection (f.apply e).1.selection, (f.apply e).2) := by
  have hedit := edit_of_editsSelection he f.forgetQuery g.forgetQuery
  have hselection : f.forgetQuery.selection = f.selection := rfl
  rw [hselection] at hedit
  simp only [apply, forgetQuery_withSelection, hedit, afterRejection_of_editsSelection _ he]
  cases f.forgetQuery.edit e <;> rfl

theorem selection_apply {e : Edit R} (he : e.editsSelection = false) (hreset : e.resets = false)
    (f : Form R) : (f.apply e).1.selection = f.selection := by
  have happly := apply_withSelection he hreset f f.selection
  rw [withSelection_self] at happly
  rw [happly]
  rfl

/-! ## Sequences of one kind -/

/-- Edits of the area come to the same under any selection. -/
theorem applyAll_withSelection {edits : List (Edit R)}
    (h : ∀ e ∈ edits, e.editsSelection = false ∧ e.resets = false) (f : Form R) (s : Selection) :
    (f.withSelection s).applyAll edits = (f.applyAll edits).withSelection s ∧
      (f.withSelection s).judged edits = f.judged edits := by
  induction edits generalizing f with
  | nil => exact ⟨rfl, rfl⟩
  | cons e rest ih =>
    obtain ⟨⟨he, hreset⟩, hrest⟩ := List.forall_mem_cons.mp h
    obtain ⟨hform, hverdicts⟩ := ih hrest (f.apply e).1
    have happly := apply_withSelection he hreset f s
    simp only [applyAll_cons, judged_cons, happly]
    exact ⟨hform, congrArg _ hverdicts⟩

/-- Edits of the filters come to the same for any two forms with the same selection. -/
theorem applyAll_of_editsSelection {edits : List (Edit R)}
    (h : ∀ e ∈ edits, e.editsSelection = true) {f g : Form R} (hsame : g.selection = f.selection) :
    (g.applyAll edits).selection = (f.applyAll edits).selection ∧
      g.judged edits = f.judged edits := by
  induction edits generalizing f g with
  | nil => exact ⟨hsame, rfl⟩
  | cons e rest ih =>
    obtain ⟨he, hrest⟩ := List.forall_mem_cons.mp h
    have happly := apply_of_editsSelection he f g
    rw [← hsame, withSelection_self] at happly
    obtain ⟨hselection, hverdicts⟩ :=
      ih hrest (f := (f.apply e).1) (g := g.forgetQuery.withSelection (f.apply e).1.selection) rfl
    simp only [applyAll_cons, judged_cons, happly]
    exact ⟨hselection, congrArg _ hverdicts⟩

end Form

/-! ## Interleavings -/

/-- The last sequence takes its entries from the two others, each in its order. -/
inductive Interleaves {α : Type} : List α → List α → List α → Prop where
  | nil : Interleaves [] [] []
  | left {x : α} {xs ys zs : List α} (h : Interleaves xs ys zs) : Interleaves (x :: xs) ys (x :: zs)
  | right {y : α} {xs ys zs : List α} (h : Interleaves xs ys zs) :
      Interleaves xs (y :: ys) (y :: zs)

theorem Interleaves.eq_nil_iff {α : Type} {xs ys zs : List α} (h : Interleaves xs ys zs) :
    zs = [] ↔ xs = [] ∧ ys = [] := by
  cases h <;> simp

namespace Form

variable [Coordinate R]

/-- What an interleaving comes to, part by part, once the last query is forgotten. -/
theorem applyAll_interleaves {filters others edits : List (Edit R)}
    (h : Interleaves filters others edits)
    (hfilters : ∀ e ∈ filters, e.editsSelection = true)
    (hothers : ∀ e ∈ others, e.editsSelection = false ∧ e.resets = false)
    {f : Form R} (hf : f.forgetQuery = f) :
    f.applyAll edits = (f.applyAll others).withSelection (f.applyAll filters).selection ∧
      (f.judged edits).filter (fun x => x.1.editsSelection) = f.judged filters ∧
      (f.judged edits).filter (fun x => !x.1.editsSelection) = f.judged others := by
  induction h generalizing f with
  | nil => exact ⟨rfl, rfl, rfl⟩
  | @left e filters others edits h ih =>
    obtain ⟨he, hrest⟩ := List.forall_mem_cons.mp hfilters
    obtain ⟨hform, hleft, hright⟩ := ih hrest hothers (f.forgetQuery_apply e)
    -- The others start from the same form but for its selection, which they do not see.
    have happly := apply_of_editsSelection he f f
    rw [withSelection_self, hf] at happly
    obtain ⟨happlied, hjudged⟩ := applyAll_withSelection hothers f (f.apply e).1.selection
    have hafter : (f.apply e).1 = f.withSelection (f.apply e).1.selection :=
      congrArg Prod.fst happly
    rw [← hafter] at happlied hjudged
    simp only [applyAll_cons, judged_cons]
    refine ⟨?_, ?_, ?_⟩
    · rw [hform, happlied, withSelection_withSelection]
    · rw [List.filter_cons, if_pos he, hleft]
    · rw [List.filter_cons, if_neg (by simp [he]), hright, hjudged]
  | @right e filters others edits h ih =>
    obtain ⟨⟨he, hreset⟩, hrest⟩ := List.forall_mem_cons.mp hothers
    obtain ⟨hform, hleft, hright⟩ := ih hfilters hrest (f.forgetQuery_apply e)
    -- The filters start from a form with the same selection, and see nothing else.
    obtain ⟨hselection, hjudged⟩ :=
      applyAll_of_editsSelection hfilters (selection_apply he hreset f)
    simp only [applyAll_cons, judged_cons]
    refine ⟨?_, ?_, ?_⟩
    · rw [hform, hselection]
    · rw [List.filter_cons, if_neg (by simp [he]), hleft, hjudged]
    · rw [List.filter_cons, if_pos (by simp [he]), hright]

/-- How edits of the filters and other edits go together. -/
structure Independent (f : Form R) (filters others : List (Edit R)) : Prop where
  /-- All interleavings end in the same form. -/
  form_eq : ∀ edits edits', Interleaves filters others edits → Interleaves filters others edits' →
    f.applyAll edits = f.applyAll edits'
  /-- In any of them the verdicts on the filter edits are those on these edits alone. -/
  filters_judged : ∀ edits, Interleaves filters others edits →
    (f.judged edits).filter (fun x => x.1.editsSelection) = f.judged filters
  /-- In any of them the verdicts on the other edits are those on the other edits alone. -/
  others_judged : ∀ edits, Interleaves filters others edits →
    (f.judged edits).filter (fun x => !x.1.editsSelection) = f.judged others

/-- Edits of the filters and other edits are independent from any form, as long as
    none of them resets it. -/
theorem independent_filters {filters others : List (Edit R)}
    (hfilters : ∀ e ∈ filters, e.editsSelection = true)
    (hothers : ∀ e ∈ others, e.editsSelection = false ∧ e.resets = false) (f : Form R) :
    f.Independent filters others where
  form_eq edits edits' h h' := by
    by_cases hnil : edits = []
    · have hnil' := h'.eq_nil_iff.mpr (h.eq_nil_iff.mp hnil)
      rw [hnil, hnil']
    · have hnil' : edits' ≠ [] := fun hnil' => hnil (h.eq_nil_iff.mpr (h'.eq_nil_iff.mp hnil'))
      rw [← f.applyAll_forgetQuery hnil, ← f.applyAll_forgetQuery hnil',
        (applyAll_interleaves h hfilters hothers rfl).1,
        (applyAll_interleaves h' hfilters hothers rfl).1]
  filters_judged edits h := by
    have hjudged := (applyAll_interleaves h hfilters hothers (f := f.forgetQuery) rfl).2.1
    rwa [judged_forgetQuery, judged_forgetQuery] at hjudged
  others_judged edits h := by
    have hjudged := (applyAll_interleaves h hfilters hothers (f := f.forgetQuery) rfl).2.2
    rwa [judged_forgetQuery, judged_forgetQuery] at hjudged

end Form

/-- A rejected attribute and a place type, between a name that is typed and made a tag
    and a vertex that cannot be moved. -/
theorem independent_filters_tagging :
    let f : Form Degrees := Form.new .standard
    let filters : List (Edit Degrees) := [.setAttribute "has wifi" true, .addPlaceType "cafe"]
    let others : List (Edit Degrees) :=
      [.setRegionInput "mitte", .addRegionTag "", .moveVertex 0 ⟨.ofFloat 52, .ofFloat 13⟩]
    (∀ e ∈ filters, e.editsSelection = true) ∧
      (∀ e ∈ others, e.editsSelection = false ∧ e.resets = false) ∧
      f.Independent filters others ∧ f.applyAll (filters ++ others) = f.applyAll (others ++ filters) := by
  intro f filters others
  have hfilters : ∀ e ∈ filters, e.editsSelection = true := by simp [filters, Edit.editsSelection]
  have hothers : ∀ e ∈ others, e.editsSelection = false ∧ e.resets = false := by
    simp [others, Edit.editsSelection, Edit.resets]
  have hindependent := Form.independent_filters hfilters hothers f
  refine ⟨hfilters, hothers, hindependent, hindependent.form_eq _ _ ?_ ?_⟩
  · exact .left (.left (.right (.right (.right .nil))))
  · exact .right (.right (.right (.left (.left .nil))))

end PlaceSearch
