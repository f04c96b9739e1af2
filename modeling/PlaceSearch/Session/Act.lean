-- SUMMARY: Sessions and what can happen to them: edits, changes of the sign-in, and runs.
import PlaceSearch.Session.Run
import PlaceSearch.Session.SignIn

/-!
# Sessions

A session is a watched form and a sign-in in one territory. What happens to it
is an act: an edit, a change of the sign-in, or a run with whatever the
collaborators answer at that time. A run takes its token from the sign-in.
-/

namespace PlaceSearch

structure Session (R : Type) where
  territory : Territory
  watched : Watched R
  signIn : SignIn

inductive Act (R : Type) where
  | edit (e : Edit R)
  | setToken (token : String)
  | signOut
  /-- A run; the token is not taken from the collaborators given here. -/
  | run (services : Services R)

/-- What comes of an act. -/
inductive ActResult (R : Type) where
  | edited (verdict : Except Fault Unit)
  | signIn (isSignedIn : Bool)
  | ran (outcome : Except Fault (Outcome R))

/-- The collaborators with the token of a sign-in. -/
def Services.withSignIn {R : Type} (services : Services R) (signIn : SignIn) : Services R :=
  { services with token := signIn.requireToken }

namespace Session

variable {R : Type} [Coordinate R]

/-- A session with nothing entered, and one observer from the start. -/
def new (territory : Territory) (defaults : FormDefaults) (signIn : SignIn) : Session R :=
  ⟨territory, Watched.subscribe ⟨Form.new defaults, []⟩, signIn⟩

omit [Coordinate R] in
/-- The form in its present state. -/
def form (s : Session R) : Form R := s.watched.form

omit [Coordinate R] in
/-- The session with another form, of which nobody hears. -/
def withForm (s : Session R) (form : Form R) : Session R :=
  { s with watched := { s.watched with form := form } }

omit [Coordinate R] in
/-- The session with another sign-in. -/
def withSignIn (s : Session R) (signIn : SignIn) : Session R × ActResult R :=
  ({ s with signIn := signIn }, .signIn signIn.isSignedIn)

/-- One act: the session after it and what came of it. -/
def act (ringOf : String → Option (List (Point R))) (s : Session R) :
    Act R → Traced R (Session R × ActResult R)
  | .edit e =>
    let (watched, verdict) := s.watched.apply e
    pure ({ s with watched := watched }, .edited verdict)
  | .setToken token => pure (s.withSignIn (s.signIn.setToken token))
  | .signOut => pure (s.withSignIn s.signIn.revoke)
  | .run services => do
    let (form, outcome) ←
      Run.perform (services.withSignIn s.signIn) ringOf s.territory s.form
    return (s.withForm form, .ran outcome)

/-- Acts one after the other. -/
def acts (ringOf : String → Option (List (Point R))) (s : Session R) :
    List (Act R) → Traced R (Session R × List (ActResult R))
  | [] => pure (s, [])
  | a :: rest => do
    let (next, result) ← s.act ringOf a
    let (last, results) ← next.acts ringOf rest
    return (last, result :: results)

end Session

end PlaceSearch
