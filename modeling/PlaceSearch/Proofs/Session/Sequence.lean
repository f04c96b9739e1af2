-- SUMMARY: Edits one after the other: the form they lead to and the verdict on each.
import PlaceSearch.Proofs.Session.Form

/-!
# Sequences of edits

A rejected edit does not keep the ones behind it from being made. The last query
tells a form from one that has forgotten it only as long as nothing is edited.
-/

namespace PlaceSearch.Form

variable {R : Type} [Coordinate R]

/-- The form after edits, whatever becomes of each. -/
def applyAll (f : Form R) (edits : List (Edit R)) : Form R :=
  edits.foldl (fun f e => (f.apply e).1) f

/-- Each edit with the verdict on it. -/
def judged (f : Form R) : List (Edit R) → List (Edit R × Except Fault Unit)
  | [] => []
  | e :: rest => (e, (f.apply e).2) :: (f.apply e).1.judged rest

@[simp] theorem applyAll_nil (f : Form R) : f.applyAll [] = f := rfl
@[simp] theorem applyAll_cons (f : Form R) (e : Edit R) (rest : List (Edit R)) :
    f.applyAll (e :: rest) = (f.apply e).1.applyAll rest := rfl
@[simp] theorem judged_nil (f : Form R) : f.judged [] = [] := rfl
@[simp] theorem judged_cons (f : Form R) (e : Edit R) (rest : List (Edit R)) :
    f.judged (e :: rest) = (e, (f.apply e).2) :: (f.apply e).1.judged rest := rfl

theorem apply_forgetQuery (f : Form R) (e : Edit R) : f.forgetQuery.apply e = f.apply e := rfl

theorem judged_forgetQuery (f : Form R) (edits : List (Edit R)) :
    f.forgetQuery.judged edits = f.judged edits := by
  cases edits with
  | nil => rfl
  | cons e rest => rw [judged_cons, judged_cons, apply_forgetQuery]

theorem applyAll_forgetQuery (f : Form R) {edits : List (Edit R)} (h : edits ≠ []) :
    f.forgetQuery.applyAll edits = f.applyAll edits := by
  cases edits with
  | nil => exact absurd rfl h
  | cons e rest => rw [applyAll_cons, applyAll_cons, apply_forgetQuery]

/-- After an edit there is no query left to forget. -/
theorem forgetQuery_apply (f : Form R) (e : Edit R) :
    (f.apply e).1.forgetQuery = (f.apply e).1 := by
  have hnone := f.apply_lastQuery e
  revert hnone
  generalize (f.apply e).1 = g
  intro hnone
  rw [forgetQuery, ← hnone]

end PlaceSearch.Form
