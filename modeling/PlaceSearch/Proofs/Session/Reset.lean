-- SUMMARY: A reset forgets the past: what comes after it depends on the defaults, the mode and the region column only.
import PlaceSearch.Proofs.Session.Rejection
import PlaceSearch.Proofs.Session.Sequence
import PlaceSearch.Session.Act

/-!
# Starting over

A change of mode and a reset take a form to the blank form of a mode. Only the region
column comes along from the search before, so two forms with the same defaults and the
same column cannot be told apart afterwards, whatever happened to each of them: every
further edit gets the same verdict, and every further run sends and says the same.
-/

namespace PlaceSearch

variable {R : Type}

/-- The form of a mode with nothing entered but a region column. -/
def Form.blank (defaults : FormDefaults) (column : Option RegionColumn) (mode : Mode) : Form R where
  defaults := defaults
  mode := mode
  center := none
  meters := match mode with
    | .function => defaults.functionMeters
    | _ => defaults.circleMeters
  polygon := none
  polygonText := ""
  polygonTextInvalid := false
  regionColumn := column
  regionInput := ""
  regionTags := []
  ends := ⟨none, none⟩
  routeBuffer := defaults.routeBuffer
  selection := .fresh
  cells := match mode with
    | .function => true
    | _ => false
  resolution := match mode with
    | .function => clampNat 1 8 defaults.resolution
    | _ => clampNat 1 12 defaults.resolution
  lastQuery := none

/-- The edit takes the form back to the defaults of the mode. -/
inductive Edit.StartsOver (f : Form R) : Edit R → Mode → Prop where
  | setMode (mode : Mode) : StartsOver f (.setMode mode) mode
  | reset : StartsOver f .reset f.mode

theorem Form.resetTo_forgetQuery (f : Form R) (mode : Mode) :
    f.forgetQuery.resetTo mode = .blank f.defaults f.regionColumn mode := by
  cases mode <;> rfl

variable [Coordinate R]

/-- Starting over is never rejected and leads to the blank form. -/
theorem Form.apply_of_startsOver {f : Form R} {e : Edit R} {mode : Mode}
    (h : e.StartsOver f mode) :
    f.apply e = (.blank f.defaults f.regionColumn mode, .ok ()) := by
  cases h with
  | setMode mode => exact congrArg (·, Except.ok ()) (f.resetTo_forgetQuery mode)
  | reset => exact congrArg (·, Except.ok ()) (f.resetTo_forgetQuery f.mode)

namespace Session

/-- The sessions have the same inputs. Who observes them, and what observers were told,
    may differ. -/
structure SameInputs (s t : Session R) : Prop where
  territory : s.territory = t.territory
  form : s.form = t.form
  signIn : s.signIn = t.signIn

/-- An edit that comes to the same for two forms leads to the same inputs. -/
theorem sameInputs_edit {s t : Session R} (hterritory : s.territory = t.territory)
    (hsignIn : s.signIn = t.signIn) {e : Edit R} (hsame : s.form.apply e = t.form.apply e)
    (ringOf : String → Option (List (Point R))) :
    (s.act ringOf (.edit e)).value.2 = (t.act ringOf (.edit e)).value.2 ∧
      (s.act ringOf (.edit e)).value.1.SameInputs (t.act ringOf (.edit e)).value.1 := by
  have hverdict : (s.watched.apply e).2 = (t.watched.apply e).2 := by
    rw [s.watched.apply_verdict, t.watched.apply_verdict]
    exact congrArg Prod.snd hsame
  have hform : (s.watched.apply e).1.form = (t.watched.apply e).1.form := by
    rw [s.watched.apply_form, t.watched.apply_form]
    exact congrArg Prod.fst hsame
  exact ⟨congrArg ActResult.edited hverdict, hterritory, hform, hsignIn⟩

/-- What an act does in a session does not depend on its observers. -/
theorem SameInputs.act {s t : Session R} (h : s.SameInputs t)
    (ringOf : String → Option (List (Point R))) (a : Act R) :
    (s.act ringOf a).events = (t.act ringOf a).events ∧
      (s.act ringOf a).value.2 = (t.act ringOf a).value.2 ∧
      (s.act ringOf a).value.1.SameInputs (t.act ringOf a).value.1 := by
  cases a with
  | edit e =>
    have hsame : s.form.apply e = t.form.apply e := by rw [h.form]
    exact ⟨rfl, sameInputs_edit h.territory h.signIn hsame ringOf⟩
  | setToken token => exact ⟨rfl, rfl, h.territory, h.form, rfl⟩
  | signOut => exact ⟨rfl, rfl, h.territory, h.form, rfl⟩
  | run services =>
    have hrun : Run.perform (services.withSignIn s.signIn) ringOf s.territory s.form =
        Run.perform (services.withSignIn t.signIn) ringOf t.territory t.form := by
      rw [h.signIn, h.territory, h.form]
    simp only [Session.act, Traced.bind_events, Traced.bind_value, Traced.pure_events,
      Traced.pure_value, hrun]
    exact ⟨trivial, trivial, h.territory, rfl, h.signIn⟩

/-- What a sequence of acts does in a session does not depend on its observers. -/
theorem SameInputs.acts {s t : Session R} (h : s.SameInputs t)
    (ringOf : String → Option (List (Point R))) (acts : List (Act R)) :
    (s.acts ringOf acts).events = (t.acts ringOf acts).events ∧
      (s.acts ringOf acts).value.2 = (t.acts ringOf acts).value.2 ∧
      (s.acts ringOf acts).value.1.SameInputs (t.acts ringOf acts).value.1 := by
  induction acts generalizing s t with
  | nil => exact ⟨rfl, rfl, h⟩
  | cons a rest ih =>
    obtain ⟨hevents, hresult, hnext⟩ := h.act ringOf a
    obtain ⟨hevents', hresults, hlast⟩ := ih hnext
    simp only [Session.acts, Traced.bind_events, Traced.bind_value, Traced.pure_events,
      Traced.pure_value, hevents, hevents', hresult, hresults]
    exact ⟨trivial, trivial, hlast⟩

end Session

/-- How two sessions go on that start over in one mode. -/
structure Session.ForgetsPast (ringOf : String → Option (List (Point R))) (s t : Session R)
    (e : Edit R) (mode : Mode) : Prop where
  /-- Starting over is accepted in one session and leads to the blank form of the mode. -/
  left : s.form.apply e = (.blank s.form.defaults s.form.regionColumn mode, .ok ())
  /-- In the other session it leads to the same blank form. -/
  right : t.form.apply e = (.blank s.form.defaults s.form.regionColumn mode, .ok ())
  /-- Any further edits get the same verdicts and lead to the same form. -/
  edits : ∀ edits, s.form.judged (e :: edits) = t.form.judged (e :: edits) ∧
    s.form.applyAll (e :: edits) = t.form.applyAll (e :: edits)
  /-- In one territory and with one sign-in, any further acts, runs included, make the
      same calls, say the same, have the same results and lead to the same form. -/
  acts : s.territory = t.territory → s.signIn = t.signIn → ∀ acts,
    (s.acts ringOf (.edit e :: acts)).events = (t.acts ringOf (.edit e :: acts)).events ∧
      (s.acts ringOf (.edit e :: acts)).value.2 = (t.acts ringOf (.edit e :: acts)).value.2 ∧
      (s.acts ringOf (.edit e :: acts)).value.1.form = (t.acts ringOf (.edit e :: acts)).value.1.form

/-- Two sessions with the same defaults and the same region column, whatever their
    past, are one after a change to the same mode, and after a reset in the same mode. -/
theorem Session.forgetsPast_of_startsOver (ringOf : String → Option (List (Point R)))
    {s t : Session R} (hdefaults : s.form.defaults = t.form.defaults)
    (hcolumn : s.form.regionColumn = t.form.regionColumn) {e : Edit R} {mode : Mode}
    (hs : e.StartsOver s.form mode) (ht : e.StartsOver t.form mode) :
    s.ForgetsPast ringOf t e mode := by
  have hleft := Form.apply_of_startsOver hs
  have hright := Form.apply_of_startsOver ht
  rw [← hdefaults, ← hcolumn] at hright
  have hsame : s.form.apply e = t.form.apply e := hleft.trans hright.symm
  refine ⟨hleft, hright, ?_, ?_⟩
  · intro edits
    simp only [Form.judged_cons, Form.applyAll_cons, hsame]
    exact ⟨trivial, trivial⟩
  · intro hterritory hsignIn acts
    -- The first act makes the inputs the same; from there on only the observers differ.
    obtain ⟨hverdict, hnext⟩ := sameInputs_edit hterritory hsignIn hsame ringOf
    obtain ⟨hevents, hresults, hlast⟩ := hnext.acts ringOf acts
    simp only [Session.acts, Traced.bind_events, Traced.bind_value, Traced.pure_events,
      Traced.pure_value, hevents, hresults, hverdict]
    exact ⟨rfl, trivial, hlast.form⟩

/-- A search for a tag and one with a rejected polygon, of which a change to routes
    leaves only the column of the regions. -/
theorem forgetsPast_regionAndPolygon :
    let berlin : Territory := ⟨.sample, "Berlin, Germany", "de"⟩
    let column : RegionColumn := ⟨⟨"locality_names", by decide⟩, .array⟩
    let start : Session Degrees := .new berlin .standard (.ofToken "token")
    let s := (start.acts (fun _ => none) [.edit (.setMode .region),
      .edit (.setRegionColumn (some column)), .edit (.addRegionTag "mitte")]).value.1
    let t := (start.acts (fun _ => none) [.edit (.setRegionColumn (some column)),
      .edit (.setMode .polygon), .edit (.pasteText "nonsense"), .signOut]).value.1
    s.form.mode ≠ t.form.mode ∧ s.form.polygonText ≠ t.form.polygonText ∧
      s.form.defaults = t.form.defaults ∧ s.form.regionColumn = t.form.regionColumn ∧
      s.ForgetsPast (fun _ => none) t (.setMode .route) .route := by
  intro berlin column start s t
  have hdefaults : s.form.defaults = t.form.defaults := rfl
  have hcolumn : s.form.regionColumn = t.form.regionColumn := rfl
  exact ⟨by decide, by decide, hdefaults, hcolumn,
    Session.forgetsPast_of_startsOver _ hdefaults hcolumn (.setMode .route) (.setMode .route)⟩

end PlaceSearch
