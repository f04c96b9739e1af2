-- SUMMARY: A token handed in up front, which can be set and revoked.
import PlaceSearch.Fault

/-!
# Signing in

There is no dialog behind the token: once it is revoked, requests for it fail
until another one is set.
-/

namespace PlaceSearch

structure SignIn where
  token : Option String
deriving DecidableEq, Repr

namespace SignIn

def ofToken (token : String) : SignIn := ⟨some token⟩

def signedOut : SignIn := ⟨none⟩

def setToken (_ : SignIn) (token : String) : SignIn := ⟨some token⟩

def revoke (_ : SignIn) : SignIn := ⟨none⟩

def isSignedIn (s : SignIn) : Bool := s.token.isSome

/-- The token, if there is one. -/
def requireToken (s : SignIn) : Except Fault String :=
  match s.token with
  | some token => .ok token
  | none => .error (.authorization "No access token available.")

end SignIn

end PlaceSearch
