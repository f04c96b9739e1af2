-- SUMMARY: Queries are sent with the token given last, and none is sent while signed out.
import PlaceSearch.Proofs.Session.FunctionMode

/-!
# Signing in and out

Tokens are set and revoked between the runs of a session, in any order. The sign-in
at a moment can be read off the acts so far. A run takes its token from there, after
the area has been resolved and before anything is sent, so a run that finds no token
ends there and leaves the session as it was.
-/

namespace PlaceSearch

variable {R : Type}

/-- Whether the act sets the token or revokes it. -/
def Act.changesSignIn : Act R → Bool
  | .setToken _ | .signOut => true
  | .edit _ | .run _ => false

namespace SignIn

/-- The sign-in after an act. -/
def after (s : SignIn) : Act R → SignIn
  | .setToken token => s.setToken token
  | .signOut => s.revoke
  | .edit _ | .run _ => s

/-- The token is the one given last, at the start or by an act, and was not revoked since. -/
inductive Holds (start : SignIn) (token : String) : List (Act R) → Prop where
  | fromStart {acts : List (Act R)} (hstart : start.token = some token)
      (hkept : ∀ a ∈ acts, a.changesSignIn = false) : Holds start token acts
  | set (earlier : List (Act R)) {later : List (Act R)}
      (hkept : ∀ a ∈ later, a.changesSignIn = false) :
      Holds start token (earlier ++ .setToken token :: later)

/-- The token was revoked, and none was set since. -/
def RevokedBy (acts : List (Act R)) : Prop :=
  ∃ earlier later, acts = earlier ++ .signOut :: later ∧ ∀ token, .setToken token ∉ later

theorem foldl_after_of_kept (s : SignIn) {acts : List (Act R)}
    (h : ∀ a ∈ acts, a.changesSignIn = false) : acts.foldl after s = s := by
  induction acts with
  | nil => rfl
  | cons a rest ih =>
    rw [List.forall_mem_cons] at h
    cases a with
    | edit e => exact ih h.2
    | run services => exact ih h.2
    | setToken token => cases h.1
    | signOut => cases h.1

theorem Holds.token_eq {start : SignIn} {token : String} {acts : List (Act R)}
    (h : start.Holds token acts) : (acts.foldl after start).token = some token := by
  cases h with
  | fromStart hstart hkept => rw [foldl_after_of_kept start hkept, hstart]
  | set earlier hkept =>
    rw [List.foldl_append, List.foldl_cons, foldl_after_of_kept _ hkept]
    rfl

/-- The token at hand is the one given last. -/
theorem holds_of_token_eq {start : SignIn} {token : String} {acts : List (Act R)}
    (h : (acts.foldl after start).token = some token) : start.Holds token acts := by
  -- What is held by the acts behind the first one is held by all of them, unless it is
  -- what the first one has left: then the first one has set it, or it was there before.
  induction acts generalizing start with
  | nil => exact .fromStart h (by simp)
  | cons a rest ih =>
    cases ih h with
    | set earlier hkept => exact .set (a :: earlier) hkept
    | fromStart hstart hkept =>
      cases a with
      | edit e => exact .fromStart hstart (List.forall_mem_cons.mpr ⟨rfl, hkept⟩)
      | run services => exact .fromStart hstart (List.forall_mem_cons.mpr ⟨rfl, hkept⟩)
      | setToken given =>
        cases hstart
        exact .set [] hkept
      | signOut => cases hstart

/-- There is no token between a revocation and the next token that is set. -/
theorem token_of_revokedBy {acts : List (Act R)} (h : RevokedBy acts) (start : SignIn) :
    (acts.foldl after start).token = none := by
  obtain ⟨earlier, later, rfl, hlater⟩ := h
  rw [List.foldl_append, List.foldl_cons]
  have hrevoked : ((earlier.foldl after start).after (.signOut : Act R)).token = none := rfl
  revert hrevoked
  generalize (earlier.foldl after start).after (.signOut : Act R) = now
  intro hnow
  induction later generalizing now with
  | nil => exact hnow
  | cons a rest ih =>
    have hrest : ∀ token, .setToken token ∉ rest :=
      fun token hmem => hlater token (List.mem_cons_of_mem _ hmem)
    cases a with
    | edit e => exact ih hrest now hnow
    | run services => exact ih hrest now hnow
    | setToken token => exact absurd List.mem_cons_self (hlater token)
    | signOut => exact ih hrest _ rfl

theorem requireToken_eq_ok_iff {s : SignIn} {token : String} :
    s.requireToken = .ok token ↔ s.token = some token := by
  unfold requireToken
  split
  · next given hgiven => rw [hgiven, Except.ok.injEq, Option.some.injEq]
  · next hnone => simp [hnone]

theorem requireToken_of_none {s : SignIn} (h : s.token = none) :
    s.requireToken = .error (.authorization "No access token available.") := by
  rw [requireToken, h]

end SignIn

/-! ## Runs without a token -/

namespace Run

variable [Coordinate R]

/-- Where a search is does not depend on the sign-in. -/
theorem resolve_withSignIn (services : Services R) (signIn : SignIn) (territory : Territory)
    (f : Form R) :
    resolve (services.withSignIn signIn) territory f = resolve services territory f := rfl

/-- The outcome of a run without a token, which its area decides. -/
def outcomeSignedOut : Except Fault (Resolved R) → Except Fault (Outcome R)
  | .error fault => .error fault
  | .ok (.incomplete missing) => .ok (.incomplete missing)
  | .ok (.ready _) => .error (.authorization "No access token available.")

theorem phases_of_signedOut {signIn : SignIn} (h : signIn.token = none) (services : Services R)
    (ringOf : String → Option (List (Point R))) (territory : Territory) (f : Form R) :
    (phases (services.withSignIn signIn) ringOf territory f).value =
      outcomeSignedOut (resolve services territory f).value := by
  have htoken : (services.withSignIn signIn).token =
      .error (.authorization "No access token available.") := SignIn.requireToken_of_none h
  obtain ⟨rest, -, hcourse⟩ :=
    phases_course (services.withSignIn signIn) ringOf territory f
  generalize (phases (services.withSignIn signIn) ringOf territory f).value = outcome at hcourse
  cases hcourse with
  | unresolved hresolve =>
    rw [resolve_withSignIn] at hresolve
    rw [hresolve, outcomeSignedOut]
  | incomplete hresolve =>
    rw [resolve_withSignIn] at hresolve
    rw [hresolve, outcomeSignedOut]
  | unauthorized hresolve hfault =>
    rw [resolve_withSignIn] at hresolve
    rw [htoken] at hfault
    cases hfault
    rw [hresolve, outcomeSignedOut]
  | queried hresolve hgiven =>
    rw [htoken] at hgiven
    cases hgiven

omit [Coordinate R] in
theorem not_isCompleted_outcomeSignedOut (resolved : Except Fault (Resolved R)) :
    ¬ IsCompleted (outcomeSignedOut resolved) := by
  obtain fault | (scope | missing) := resolved
  · exact id
  · exact id
  · exact id

end Run

/-! ## Acts one after the other -/

namespace Session

variable [Coordinate R] {ringOf : String → Option (List (Point R))}

/-- The session after some acts. -/
def afterActs (ringOf : String → Option (List (Point R))) (s : Session R) (acts : List (Act R)) :
    Session R := (s.acts ringOf acts).value.1

theorem events_acts_append (s : Session R) (xs ys : List (Act R)) :
    (s.acts ringOf (xs ++ ys)).events =
      (s.acts ringOf xs).events ++ ((s.afterActs ringOf xs).acts ringOf ys).events := by
  induction xs generalizing s with
  | nil => rfl
  | cons a rest ih =>
    simp only [List.cons_append, acts, Traced.bind_events, Traced.pure_events, List.append_nil, ih,
      List.append_assoc]
    rfl

/-- What happens in an act happens between the acts before and those behind it. -/
theorem events_acts_split (s : Session R) (before : List (Act R)) (a : Act R)
    (later : List (Act R)) :
    (s.acts ringOf (before ++ a :: later)).events =
      (s.acts ringOf before).events ++ ((s.afterActs ringOf before).act ringOf a).events ++
        (((s.afterActs ringOf before).act ringOf a).value.1.acts ringOf later).events := by
  rw [events_acts_append, List.append_assoc]
  simp only [acts, Traced.bind_events, Traced.pure_events, List.append_nil]

theorem signIn_act (ringOf : String → Option (List (Point R))) (s : Session R) (a : Act R) :
    (s.act ringOf a).value.1.signIn = s.signIn.after a := by
  cases a <;> rfl

theorem signIn_afterActs (s : Session R) (acts : List (Act R)) :
    (s.afterActs ringOf acts).signIn = acts.foldl SignIn.after s.signIn := by
  induction acts generalizing s with
  | nil => rfl
  | cons a rest ih =>
    rw [List.foldl_cons, ← signIn_act ringOf s a, ← ih]
    rfl

/-- Whatever happens in a session happens in one of its acts. -/
theorem exists_act_of_mem_events {s : Session R} {acts : List (Act R)} {e : Event R}
    (h : e ∈ (s.acts ringOf acts).events) : ∃ before a later, acts = before ++ a :: later ∧
      e ∈ ((s.afterActs ringOf before).act ringOf a).events := by
  induction acts generalizing s with
  | nil => cases h
  | cons a rest ih =>
    simp only [Session.acts, Traced.bind_events, Traced.pure_events, List.append_nil,
      List.mem_append] at h
    obtain h | h := h
    · exact ⟨[], a, rest, rfl, h⟩
    · obtain ⟨before, b, later, rfl, hmem⟩ := ih h
      exact ⟨a :: before, b, later, rfl, hmem⟩

/-! ## Runs of a session -/

theorem execute_mem_act {s : Session R} {a : Act R} {sql token : String}
    (h : .execute sql token ∈ (s.act ringOf a).events) :
    ∃ services, a = .run services ∧ s.signIn.token = some token := by
  cases a with
  | edit e => cases h
  | setToken given => cases h
  | signOut => cases h
  | run services =>
    have hperform : .execute sql token ∈
        (Run.perform (services.withSignIn s.signIn) ringOf s.territory s.form).events := by
      simpa [act] using h
    obtain ⟨-, -, htoken, -⟩ := Run.execute_mem_perform_iff.mp hperform
    exact ⟨services, rfl, SignIn.requireToken_eq_ok_iff.mp htoken⟩

/-- A run without a token ends with its area, and changes nothing. -/
theorem act_run_of_signedOut {s : Session R} (h : s.signIn.token = none) (services : Services R) :
    (s.act ringOf (.run services)).value =
      (s, .ran (Run.outcomeSignedOut (Run.resolve services s.territory s.form).value)) := by
  have houtcome := Run.phases_of_signedOut h services ringOf s.territory s.form
  have hform : (Run.perform (services.withSignIn s.signIn) ringOf s.territory s.form).value.1 =
      s.form := by
    rw [Run.perform_form, Run.perform_outcome, houtcome]
    exact Run.formAfter_of_not_isCompleted (Run.not_isCompleted_outcomeSignedOut _)
  simp only [act, Traced.bind_value, Traced.pure_value, hform, Run.perform_outcome, houtcome]
  rfl

/-- The run that follows some acts. -/
def runAfter (ringOf : String → Option (List (Point R))) (s : Session R) (before : List (Act R))
    (services : Services R) : Traced R (Session R × ActResult R) :=
  (s.afterActs ringOf before).act ringOf (.run services)

/-- What the area of the form resolves to after some acts. -/
def areaAfter (ringOf : String → Option (List (Point R))) (s : Session R) (before : List (Act R))
    (services : Services R) : Except Fault (Resolved R) :=
  let now := s.afterActs ringOf before
  (Run.resolve services now.territory now.form).value

theorem execute_mem_runAfter {s : Session R} {before : List (Act R)} {services : Services R}
    {sql token : String} (h : .execute sql token ∈ (s.runAfter ringOf before services).events) :
    s.signIn.Holds token before := by
  obtain ⟨-, -, htoken⟩ := execute_mem_act h
  rw [signIn_afterActs] at htoken
  exact SignIn.holds_of_token_eq htoken

theorem runAfter_of_revokedBy {before : List (Act R)} (h : SignIn.RevokedBy before) (s : Session R)
    (services : Services R) :
    (s.runAfter ringOf before services).value =
      (s.afterActs ringOf before,
        .ran (Run.outcomeSignedOut (s.areaAfter ringOf before services))) := by
  apply act_run_of_signedOut
  rw [signIn_afterActs]
  exact SignIn.token_of_revokedBy h s.signIn

end Session

/-- How a session guards its queries by its sign-in, whatever acts come in which order. -/
structure Session.GuardsQueries [Coordinate R] (ringOf : String → Option (List (Point R)))
    (s : Session R) : Prop where
  /-- A run happens between the acts before and those behind it. -/
  run_events : ∀ before services later,
    (s.acts ringOf (before ++ .run services :: later)).events =
      (s.acts ringOf before).events ++ (s.runAfter ringOf before services).events ++
        ((s.runAfter ringOf before services).value.1.acts ringOf later).events
  /-- Only runs send queries. -/
  sent_by_run : ∀ acts sql token, .execute sql token ∈ (s.acts ringOf acts).events →
    ∃ before services later, acts = before ++ .run services :: later ∧
      .execute sql token ∈ (s.runAfter ringOf before services).events
  /-- A query carries the token given last, and that was not revoked since. -/
  token_given_last : ∀ before services sql token,
    .execute sql token ∈ (s.runAfter ringOf before services).events → s.signIn.Holds token before
  /-- Between a revocation and the next token no query is sent. -/
  revoked_silent : ∀ before services, SignIn.RevokedBy before → ∀ sql token,
    .execute sql token ∉ (s.runAfter ringOf before services).events
  /-- A run without a token whose area lacks an input says so. -/
  revoked_incomplete : ∀ before services, SignIn.RevokedBy before → ∀ missing,
    s.areaAfter ringOf before services = .ok (.incomplete missing) →
      (s.runAfter ringOf before services).value.2 = .ran (.ok (.incomplete missing))
  /-- A run without a token whose area cannot be resolved ends with the fault of that. -/
  revoked_unresolved : ∀ before services, SignIn.RevokedBy before → ∀ fault,
    s.areaAfter ringOf before services = .error fault →
      (s.runAfter ringOf before services).value.2 = .ran (.error fault)
  /-- Any other run without a token is not authorized. -/
  revoked_ready : ∀ before services, SignIn.RevokedBy before → ∀ scope,
    s.areaAfter ringOf before services = .ok (.ready scope) →
      (s.runAfter ringOf before services).value.2 =
        .ran (.error (.authorization "No access token available."))
  /-- A run without a token changes nothing, the last query included. -/
  revoked_unchanged : ∀ before services, SignIn.RevokedBy before →
    (s.runAfter ringOf before services).value.1 = s.afterActs ringOf before

/-- Every session guards its queries, from whatever state and sign-in it starts. -/
theorem Session.guardsQueries [Coordinate R] (ringOf : String → Option (List (Point R)))
    (s : Session R) : s.GuardsQueries ringOf where
  run_events before services later := events_acts_split s before (.run services) later
  sent_by_run acts sql token h := by
    obtain ⟨before, a, later, rfl, hmem⟩ := exists_act_of_mem_events h
    obtain ⟨services, rfl, -⟩ := execute_mem_act hmem
    exact ⟨before, services, later, rfl, hmem⟩
  token_given_last before services sql token h := execute_mem_runAfter h
  revoked_silent before services hrevoked sql token h := by
    have hheld := (execute_mem_runAfter h).token_eq
    rw [SignIn.token_of_revokedBy hrevoked] at hheld
    cases hheld
  revoked_incomplete before services hrevoked missing harea := by
    rw [runAfter_of_revokedBy hrevoked, harea, Run.outcomeSignedOut]
  revoked_unresolved before services hrevoked fault harea := by
    rw [runAfter_of_revokedBy hrevoked, harea, Run.outcomeSignedOut]
  revoked_ready before services hrevoked scope harea := by
    rw [runAfter_of_revokedBy hrevoked, harea, Run.outcomeSignedOut]
  revoked_unchanged before services hrevoked := by
    rw [runAfter_of_revokedBy hrevoked]

end PlaceSearch
