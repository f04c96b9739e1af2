-- SUMMARY: Histories of a form, and whose answer the last query is.
import PlaceSearch.Proofs.Session.Form
import PlaceSearch.Proofs.Session.Run
import PlaceSearch.Session.Act

/-!
# Histories

A form is edited and run in any order, and every run meets collaborators that
may answer anything. Its history records what happened, the latest first. The
last query of a form can be read off the history alone: it is the statement of
a completed run with neither an edit nor another completed run after it, and it
still is what the present inputs compile to.
-/

namespace PlaceSearch

/-- Something that happens to a form, with what came of it. -/
inductive Happening (R : Type) where
  | edit (e : Edit R) (verdict : Except Fault Unit)
  | run (services : Services R) (outcome : Except Fault (Outcome R))

/-- A run that lacked an input or was cut short by a fault. -/
def Happening.IsUncompletedRun {R : Type} : Happening R → Prop
  | .edit _ _ => False
  | .run _ outcome => ¬ Run.IsCompleted outcome

variable {R : Type} [Coordinate R]

/-- The form after the happenings of a log, the latest of which stands first. -/
inductive History (ringOf : String → Option (List (Point R))) (territory : Territory)
    (defaults : FormDefaults) : List (Happening R) → Form R → Prop where
  | start : History ringOf territory defaults [] (Form.new defaults)
  | edit {log : List (Happening R)} {f : Form R} (h : History ringOf territory defaults log f)
      (e : Edit R) :
      History ringOf territory defaults (.edit e (f.apply e).2 :: log) (f.apply e).1
  | run {log : List (Happening R)} {f : Form R} (h : History ringOf territory defaults log f)
      (services : Services R) :
      History ringOf territory defaults
        (.run services (Run.perform services ringOf territory f).value.2 :: log)
        (Run.perform services ringOf territory f).value.1

/-! ## Sessions -/

/-- Acts of a session keep its territory and continue the history of its form. -/
theorem Session.history_act {ringOf : String → Option (List (Point R))} {defaults : FormDefaults}
    {s : Session R} {log : List (Happening R)}
    (h : History ringOf s.territory defaults log s.form) (a : Act R) :
    ∃ log', History ringOf (s.act ringOf a).value.1.territory defaults log'
      (s.act ringOf a).value.1.form := by
  cases a with
  | edit e =>
    refine ⟨.edit e (s.form.apply e).2 :: log, ?_⟩
    have hform : (s.act ringOf (.edit e)).value.1.form = (s.form.apply e).1 :=
      s.watched.apply_form e
    rw [hform]
    exact h.edit e
  | setToken token => exact ⟨log, h⟩
  | signOut => exact ⟨log, h⟩
  | run services => exact ⟨_, h.run (services.withSignIn s.signIn)⟩

/-- The form of a session has a history, whatever the acts so far. -/
theorem Session.history_acts {ringOf : String → Option (List (Point R))} {defaults : FormDefaults}
    {s : Session R} {log : List (Happening R)}
    (h : History ringOf s.territory defaults log s.form) (acts : List (Act R)) :
    ∃ log', History ringOf (s.acts ringOf acts).value.1.territory defaults log'
      (s.acts ringOf acts).value.1.form := by
  induction acts generalizing s log with
  | nil => exact ⟨log, h⟩
  | cons a rest ih =>
    obtain ⟨next, hnext⟩ := Session.history_act h a
    exact ih hnext

/-! ## The latest answer -/

/-- The last completed run with no edit after it: its collaborators and its result. -/
def latestAnswer? : List (Happening R) → Option (Services R × Completed R)
  | [] => none
  | .edit _ _ :: _ => none
  | .run services outcome :: earlier =>
    match outcome with
    | .ok (.completed result) => some (services, result)
    | _ => latestAnswer? earlier

omit [Coordinate R] in
theorem latestAnswer?_uncompleted {services : Services R} {outcome : Except Fault (Outcome R)}
    {earlier : List (Happening R)} (h : ¬ Run.IsCompleted outcome) :
    latestAnswer? (.run services outcome :: earlier) = latestAnswer? earlier := by
  obtain ⟨fault, rfl⟩ | ⟨missing, rfl⟩ := Run.not_isCompleted_iff.mp h
  · rfl
  · rfl

omit [Coordinate R] in
theorem latestAnswer?_append {recent earlier : List (Happening R)}
    (h : ∀ x ∈ recent, x.IsUncompletedRun) :
    latestAnswer? (recent ++ earlier) = latestAnswer? earlier := by
  induction recent with
  | nil => rfl
  | cons x recent ih =>
    cases x with
    | edit e verdict => exact absurd (h _ List.mem_cons_self) id
    | run services outcome =>
      rw [List.cons_append, latestAnswer?_uncompleted (h _ List.mem_cons_self)]
      exact ih fun y hy => h y (List.mem_cons_of_mem _ hy)

omit [Coordinate R] in
/-- The latest answer splits the log: nothing but uncompleted runs came after it. -/
theorem latestAnswer?_eq_some_iff {log : List (Happening R)} {services : Services R}
    {result : Completed R} :
    latestAnswer? log = some (services, result) ↔
      ∃ recent earlier, log = recent ++ .run services (.ok (.completed result)) :: earlier ∧
        ∀ x ∈ recent, x.IsUncompletedRun := by
  constructor
  · intro h
    induction log with
    | nil => cases h
    | cons x log ih =>
      cases x with
      | edit e verdict => cases h
      | run others outcome =>
        by_cases hcompleted : Run.IsCompleted outcome
        · obtain ⟨found, rfl⟩ := Run.isCompleted_iff.mp hcompleted
          cases h
          exact ⟨[], log, rfl, by simp⟩
        · rw [latestAnswer?_uncompleted hcompleted] at h
          obtain ⟨recent, earlier, rfl, hrecent⟩ := ih h
          exact ⟨.run others outcome :: recent, earlier, rfl,
            List.forall_mem_cons.mpr ⟨hcompleted, hrecent⟩⟩
  · intro h'
    obtain ⟨recent, earlier, rfl, hrecent⟩ := h'
    rw [latestAnswer?_append hrecent]
    rfl

/-! ## The last query -/

namespace History

variable {ringOf : String → Option (List (Point R))} {territory : Territory}
  {defaults : FormDefaults} {log : List (Happening R)} {f : Form R}

/-- A form shows the statement of the latest answer. -/
theorem lastQuery_eq (h : History ringOf territory defaults log f) :
    f.lastQuery = (latestAnswer? log).map fun answer => answer.2.statement := by
  -- An edit forgets the query, a completed run replaces it, and any other run keeps it.
  induction h with
  | start => rfl
  | edit h e => exact Form.apply_lastQuery _ e
  | @run log f h services ih =>
    rw [Run.perform_form]
    by_cases hcompleted : Run.IsCompleted (Run.perform services ringOf territory f).value.2
    · obtain ⟨result, hresult⟩ := Run.isCompleted_iff.mp hcompleted
      rw [hresult]
      rfl
    · rw [latestAnswer?_uncompleted hcompleted, Run.formAfter_of_not_isCompleted hcompleted]
      exact ih

/-- The latest answer is one to the inputs that the form still has. -/
theorem statement_eq_queryText (h : History ringOf territory defaults log f)
    {services : Services R} {result : Completed R}
    (hlatest : latestAnswer? log = some (services, result)) :
    ∃ scope, (Run.resolve services territory f).value = .ok (.ready scope) ∧
      result.statement = Run.queryText territory f scope := by
  -- A run that completes sets only the last query, which neither the area nor the
  -- request reads, so the inputs it was compiled from are those of the form after it.
  induction h with
  | start => cases hlatest
  | edit h e => cases hlatest
  | @run log f h others ih =>
    rw [Run.perform_form]
    by_cases hcompleted : Run.IsCompleted (Run.perform others ringOf territory f).value.2
    · obtain ⟨found, hfound⟩ := Run.isCompleted_iff.mp hcompleted
      rw [hfound] at hlatest ⊢
      cases hlatest
      obtain ⟨scope, token, hresolve, -, hquery⟩ := Run.outcome_eq_completed hfound
      exact ⟨scope, hresolve, (Run.query_eq_ok hquery).2.1⟩
    · rw [latestAnswer?_uncompleted hcompleted] at hlatest
      rw [Run.formAfter_of_not_isCompleted hcompleted]
      exact ih hlatest

end History

/-- What the last query of a form says about its history, and what a further run
    would change. -/
structure Form.QueryCurrent (ringOf : String → Option (List (Point R))) (territory : Territory)
    (log : List (Happening R)) (f : Form R) : Prop where
  /-- The query shown is that of the latest completed run, if nothing was edited since. -/
  shown_iff : ∀ q, f.lastQuery = some q ↔
    ∃ recent services result earlier,
      log = recent ++ .run services (.ok (.completed result)) :: earlier ∧
        (∀ x ∈ recent, x.IsUncompletedRun) ∧ result.statement = q
  /-- That run compiled it from inputs equal to the present ones. -/
  compiled : ∀ recent services result earlier,
    log = recent ++ .run services (.ok (.completed result)) :: earlier →
      (∀ x ∈ recent, x.IsUncompletedRun) →
        ∃ scope, (Run.resolve services territory f).value = .ok (.ready scope) ∧
          result.statement = ((Run.request f scope).statement territory).render
  /-- A run changes no input. -/
  run_inputs : ∀ services,
    (Run.perform services ringOf territory f).value.1.forgetQuery = f.forgetQuery
  /-- A run that does not complete changes nothing. -/
  run_uncompleted : ∀ services,
    (∀ result, (Run.perform services ringOf territory f).value.2 ≠ .ok (.completed result)) →
      (Run.perform services ringOf territory f).value.1 = f

theorem History.queryCurrent {ringOf : String → Option (List (Point R))} {territory : Territory}
    {defaults : FormDefaults} {log : List (Happening R)} {f : Form R}
    (h : History ringOf territory defaults log f) : f.QueryCurrent ringOf territory log where
  shown_iff q := by
    rw [h.lastQuery_eq, Option.map_eq_some_iff]
    constructor
    · intro h'
      obtain ⟨⟨services, result⟩, hlatest, hq⟩ := h'
      obtain ⟨recent, earlier, hlog, hrecent⟩ := latestAnswer?_eq_some_iff.mp hlatest
      exact ⟨recent, services, result, earlier, hlog, hrecent, hq⟩
    · intro h'
      obtain ⟨recent, services, result, earlier, hlog, hrecent, hq⟩ := h'
      exact ⟨(services, result), latestAnswer?_eq_some_iff.mpr ⟨recent, earlier, hlog, hrecent⟩, hq⟩
  compiled recent services result earlier hlog hrecent :=
    h.statement_eq_queryText (latestAnswer?_eq_some_iff.mpr ⟨recent, earlier, hlog, hrecent⟩)
  run_inputs services := Run.forgetQuery_formAfter _
  run_uncompleted services hnone := by
    apply Run.formAfter_of_not_isCompleted
    intro hcompleted
    obtain ⟨result, hresult⟩ := Run.isCompleted_iff.mp hcompleted
    exact hnone result hresult

/-- Collaborators that find one box and one route, and answer every query with no rows. -/
def Services.withoutRows (box : Box R) : Services R where
  geocode _ := .ok (some box)
  route _ _ := .ok ⟨"LINESTRING(13 52, 14 52)", [], box⟩
  token := .ok "token"
  execute _ _ := .ok ⟨[], [], none⟩

/-- A region search that completes shows its query, and keeps it through a run
    that fails for lack of a token. -/
theorem queryCurrent_regionSearch :
    let berlin : Territory := ⟨.sample, "Berlin, Germany", "de"⟩
    ∃ (log : List (Happening Degrees)) (f : Form Degrees),
      History (fun _ => none) berlin .standard log f ∧
      f.lastQuery.isSome = true ∧ f.QueryCurrent (fun _ => none) berlin log := by
  intro berlin
  let answers := Services.withoutRows (Box.ofPoint (⟨.ofFloat 52.5, .ofFloat 13.4⟩ : Point Degrees))
  let column : RegionColumn := ⟨⟨"locality_names", by decide⟩, .array⟩
  have hstart : History (fun _ => none) berlin .standard [] (Form.new (R := Degrees) .standard) :=
    .start
  have htyped := ((hstart.edit (.setMode .region)).edit (.setRegionColumn (some column))).edit
    (.setRegionInput "mitte")
  have h := (htyped.run answers).run { answers with token := .error (.setup "") }
  exact ⟨_, _, h, by decide +kernel, h.queryCurrent⟩

end PlaceSearch
