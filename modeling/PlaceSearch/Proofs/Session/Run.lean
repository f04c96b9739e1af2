-- SUMMARY: How a run can go: the ways it ends, what it calls on the way, and what it leaves behind.
import PlaceSearch.Proofs.Search.Trace
import PlaceSearch.Session.Run

/-!
# Courses of a run

Once the area of a form has been resolved, a run can take four courses: stop at
a fault, stop because something is missing, stop for lack of a token, or send
its query. What else is said of runs is read off these.
-/

namespace PlaceSearch.Run

variable {R : Type} [Coordinate R] {services : Services R}
  {ringOf : String → Option (List (Point R))} {territory : Territory} {f : Form R}

/-- The statement of a form with its area resolved, as text. -/
def queryText (territory : Territory) (f : Form R) (scope : Scope R) : String :=
  ((request f scope).statement territory).render

/-- What is said before the statement is built. -/
def buildingLine (functionMode : Bool) : String :=
  if functionMode then "Building function query..." else "Building query..."

/-- What is said before the statement is executed. -/
def executingLine (functionMode : Bool) : String :=
  if functionMode then "Executing function..." else "Executing query..."

/-- What happens after the area has been resolved, and how the run ends. -/
inductive Course (services : Services R) (ringOf : String → Option (List (Point R)))
    (territory : Territory) (f : Form R) : List (Event R) → Except Fault (Outcome R) → Prop where
  | unresolved {fault : Fault} (hresolve : (resolve services territory f).value = .error fault) :
      Course services ringOf territory f [] (.error fault)
  | incomplete {missing : Missing}
      (hresolve : (resolve services territory f).value = .ok (.incomplete missing)) :
      Course services ringOf territory f [] (.ok (.incomplete missing))
  | unauthorized {scope : Scope R} {fault : Fault}
      (hresolve : (resolve services territory f).value = .ok (.ready scope))
      (htoken : services.token = .error fault) :
      Course services ringOf territory f
        [.status .info "Checking authorization...", .token] (.error fault)
  | queried {scope : Scope R} {token : String}
      (hresolve : (resolve services territory f).value = .ok (.ready scope))
      (htoken : services.token = .ok token) :
      Course services ringOf territory f
        [.status .info "Checking authorization...", .token,
          .status .info (buildingLine f.mode.isFunction),
          .status .info (executingLine f.mode.isFunction),
          .execute (queryText territory f scope) token]
        ((query services ringOf territory f scope token).value.map .completed)

theorem phases_course (services : Services R) (ringOf : String → Option (List (Point R)))
    (territory : Territory) (f : Form R) : ∃ rest,
    (phases services ringOf territory f).events = (resolve services territory f).events ++ rest ∧
      Course services ringOf territory f rest (phases services ringOf territory f).value := by
  rw [phases]
  cases hresolve : (resolve services territory f).value with
  | error fault =>
    simp only [Traced.bind_events, Traced.bind_value, hresolve]
    exact ⟨[], rfl, .unresolved hresolve⟩
  | ok resolved =>
    cases resolved with
    | incomplete missing =>
      simp only [Traced.bind_events, Traced.bind_value, hresolve]
      exact ⟨[], rfl, .incomplete hresolve⟩
    | ready scope =>
      simp only [Traced.bind_events, Traced.bind_value, hresolve, Traced.call_value]
      cases htoken : services.token with
      | error fault => exact ⟨_, rfl, .unauthorized hresolve htoken⟩
      | ok token => exact ⟨_, rfl, .queried hresolve htoken⟩

/-! ## A run as a whole -/

theorem perform_events :
    (perform services ringOf territory f).events =
      .status .info "Validating inputs..." :: (phases services ringOf territory f).events ++
        [.status (finalLine (phases services ringOf territory f).value).1
          (finalLine (phases services ringOf territory f).value).2] := rfl

theorem perform_outcome :
    (perform services ringOf territory f).value.2 = (phases services ringOf territory f).value :=
  rfl

theorem perform_form :
    (perform services ringOf territory f).value.1 =
      formAfter f (perform services ringOf territory f).value.2 := rfl

/-- When there is nothing to draw, the message says so. -/
theorem interpret_noCells {shape : Shape} {center : Point R} {t : Table} {message : String}
    (h : interpret ringOf shape center t = .ok (.noCells, message)) : message = Layer.noCells := by
  unfold interpret at h
  cases shape with
  | cells =>
    cases hlayer : Layer.ofArrays ringOf t with
    | error fault => simp [hlayer] at h
    | ok layer => cases layer <;> simp_all
  | function => cases hlayer : (Layer.ofRows? t : Option (Layer R)) <;> simp_all
  | _ => simp at h

/-- A completed query was executed and its answer could be interpreted. -/
theorem query_eq_ok {scope : Scope R} {token : String} {result : Completed R}
    (h : (query services ringOf territory f scope token).value = .ok result) :
    result.shape = ((request f scope).statement territory).shape ∧
      result.statement = queryText territory f scope ∧
      ∃ table, services.execute result.statement token = .ok table ∧
        interpret ringOf result.shape scope.center table = .ok (result.display, result.message) := by
  simp only [query, Traced.bind_value, Traced.pure_value, Traced.call_value] at h
  cases hanswer : services.execute ((request f scope).statement territory).render token with
  | error fault => rw [hanswer] at h; cases h
  | ok table =>
    rw [hanswer] at h
    simp only [Except.bind] at h
    cases hview : interpret ringOf ((request f scope).statement territory).shape scope.center
        table with
    | error fault => rw [hview] at h; cases h
    | ok view =>
      rw [hview] at h
      cases h
      exact ⟨rfl, rfl, table, hanswer, hview⟩

/-- A completed run sent the statement of its form. -/
theorem outcome_eq_completed {result : Completed R}
    (h : (perform services ringOf territory f).value.2 = .ok (.completed result)) :
    ∃ scope token, (resolve services territory f).value = .ok (.ready scope) ∧
      services.token = .ok token ∧
      (query services ringOf territory f scope token).value = .ok result := by
  rw [perform_outcome] at h
  obtain ⟨rest, -, hcourse⟩ := phases_course services ringOf territory f
  rw [h] at hcourse
  generalize houtcome : (Except.ok (Outcome.completed result) : Except Fault (Outcome R)) = outcome
    at hcourse
  cases hcourse with
  | unresolved hresolve => cases houtcome
  | incomplete hresolve => cases houtcome
  | unauthorized hresolve htoken => cases houtcome
  | @queried scope token hresolve htoken =>
    cases hquery : (query services ringOf territory f scope token).value with
    | error fault => rw [hquery] at houtcome; cases houtcome
    | ok found =>
      rw [hquery] at houtcome
      cases houtcome
      exact ⟨scope, token, hresolve, htoken, hquery⟩

/-- The last line is an information only if there is nothing to draw. -/
theorem finalLine_info {text : String}
    (h : finalLine (perform services ringOf territory f).value.2 = (.info, text)) :
    text = Layer.noCells := by
  cases houtcome : (perform services ringOf territory f).value.2 with
  | error fault => rw [houtcome] at h; cases h
  | ok outcome =>
    cases outcome with
    | incomplete missing => rw [houtcome] at h; cases h
    | completed result =>
      obtain ⟨scope, token, -, -, hquery⟩ := outcome_eq_completed houtcome
      obtain ⟨-, -, table, -, hview⟩ := query_eq_ok hquery
      rw [houtcome] at h
      cases hdisplay : result.display with
      | noCells =>
        rw [hdisplay] at hview
        simp only [finalLine, hdisplay, Prod.mk.injEq, true_and] at h
        rw [← h]
        exact interpret_noCells hview
      | _ => simp [finalLine, hdisplay] at h

/-! ## The form after a run -/

/-- The run ended with a result. -/
def IsCompleted : Except Fault (Outcome R) → Prop
  | .ok (.completed _) => True
  | _ => False

instance : DecidablePred (IsCompleted (R := R))
  | .ok (.completed _) => isTrue trivial
  | .ok (.incomplete _) => isFalse id
  | .error _ => isFalse id

omit [Coordinate R] in
theorem isCompleted_iff {outcome : Except Fault (Outcome R)} :
    IsCompleted outcome ↔ ∃ result, outcome = .ok (.completed result) := by
  constructor
  · intro h
    match outcome, h with
    | .ok (.completed result), _ => exact ⟨result, rfl⟩
  · intro h'
    obtain ⟨result, rfl⟩ := h'
    trivial

omit [Coordinate R] in
theorem not_isCompleted_iff {outcome : Except Fault (Outcome R)} :
    ¬ IsCompleted outcome ↔
      (∃ fault, outcome = .error fault) ∨ ∃ missing, outcome = .ok (.incomplete missing) := by
  match outcome with
  | .error fault => simp [IsCompleted]
  | .ok (.incomplete missing) => simp [IsCompleted]
  | .ok (.completed result) => simp [IsCompleted]

omit [Coordinate R] in
theorem formAfter_of_not_isCompleted {outcome : Except Fault (Outcome R)}
    (h : ¬ IsCompleted outcome) : formAfter f outcome = f := by
  obtain ⟨fault, rfl⟩ | ⟨missing, rfl⟩ := not_isCompleted_iff.mp h
  · rfl
  · rfl

omit [Coordinate R] in
/-- After a run there is a last query, or the form is as before. -/
theorem formAfter_cases (f : Form R) (outcome : Except Fault (Outcome R)) :
    formAfter f outcome = f ∨ ∃ text, formAfter f outcome = f.keepQuery text := by
  by_cases h : IsCompleted outcome
  · obtain ⟨result, rfl⟩ := isCompleted_iff.mp h
    exact Or.inr ⟨result.statement, rfl⟩
  · exact Or.inl (formAfter_of_not_isCompleted h)

omit [Coordinate R] in
/-- A run changes nothing but the last query. -/
theorem forgetQuery_formAfter (outcome : Except Fault (Outcome R)) :
    (formAfter f outcome).forgetQuery = f.forgetQuery := by
  obtain h | ⟨text, h⟩ := formAfter_cases f outcome
  · rw [h]
  · rw [h]
    rfl

end PlaceSearch.Run
