-- SUMMARY: Events of a search, the collaborators it calls, and traced computations.
import PlaceSearch.Fault
import PlaceSearch.Service.Route
import PlaceSearch.Table.Reply

/-!
# Traces

A search talks to collaborators and reports what it is doing. A traced
computation is a value together with the events that led to it, in order; a
collaborator can only be called through it, so the trace is complete.
-/

namespace PlaceSearch

/-- How a status line is shown. -/
inductive Level where
  | info
  | success
  | error
deriving DecidableEq, Repr

/-- A status line, or a call of a collaborator with its arguments. -/
inductive Event (R : Type) where
  | status (level : Level) (text : String)
  | geocode (address : String)
  | route (origin destination : Point R)
  | token
  | execute (statement token : String)
  | locate (placeId : String)
deriving DecidableEq

/-- The collaborators of a search. -/
structure Services (R : Type) where
  /-- The box of an address, `none` if nothing matches it. -/
  geocode : String → Except Fault (Option (Box R))
  route : Point R → Point R → Except Fault (Route R)
  /-- A token that allows queries. -/
  token : Except Fault String
  /-- Run a statement with a token. -/
  execute : String → String → Except Fault Table

/-- A value and the events before it. -/
structure Traced (R α : Type) where
  events : List (Event R)
  value : α

namespace Traced

variable {R α β : Type}

instance : Monad (Traced R) where
  pure a := ⟨[], a⟩
  bind x f :=
    let y := f x.value
    ⟨x.events ++ y.events, y.value⟩

/-- One event. -/
def emit (e : Event R) : Traced R Unit := ⟨[e], ()⟩

/-- An event that comes with an answer. -/
def call (e : Event R) (answer : α) : Traced R α := ⟨[e], answer⟩

@[simp] theorem pure_events (a : α) : (pure a : Traced R α).events = [] := rfl
@[simp] theorem pure_value (a : α) : (pure a : Traced R α).value = a := rfl
@[simp] theorem bind_events (x : Traced R α) (f : α → Traced R β) :
    (x >>= f).events = x.events ++ (f x.value).events := rfl
@[simp] theorem bind_value (x : Traced R α) (f : α → Traced R β) :
    (x >>= f).value = (f x.value).value := rfl
@[simp] theorem emit_events (e : Event R) : (emit e).events = [e] := rfl
@[simp] theorem call_events (e : Event R) (a : α) : (call e a).events = [e] := rfl
@[simp] theorem call_value (e : Event R) (a : α) : (call e a).value = a := rfl

/-- Apply a traced computation to each element in order. -/
def each (f : α → Traced R β) : List α → Traced R (List β)
  | [] => pure []
  | a :: rest => do
    let b ← f a
    let bs ← each f rest
    return b :: bs

end Traced

end PlaceSearch
