-- SUMMARY: The calls and the status lines of a trace.
import PlaceSearch.Search.Trace

/-!
# Calls and lines

A trace holds two kinds of events: calls of collaborators, and status lines for
the user. Each kind is looked at by itself here.
-/

namespace PlaceSearch

variable {R α β : Type}

namespace Event

/-- Whether a collaborator is called. -/
def isCall : Event R → Bool
  | .status _ _ => false
  | _ => true

/-- Whether a collaborator is asked where something is. -/
def isLookup : Event R → Bool
  | .geocode _ | .route _ _ => true
  | _ => false

theorem isCall_of_isLookup {e : Event R} (h : e.isLookup = true) : e.isCall = true := by
  cases e with
  | status level text => cases h
  | _ => rfl

/-- The level and text of a status line. -/
def line? : Event R → Option (Level × String)
  | .status level text => some (level, text)
  | _ => none

/-- The calls among the events, in order. -/
def calls (events : List (Event R)) : List (Event R) := events.filter isCall

/-- The status lines among the events, in order. -/
def lines (events : List (Event R)) : List (Level × String) := events.filterMap line?

@[simp] theorem calls_nil : calls ([] : List (Event R)) = [] := rfl
@[simp] theorem lines_nil : lines ([] : List (Event R)) = [] := rfl

@[simp] theorem calls_append (xs ys : List (Event R)) : calls (xs ++ ys) = calls xs ++ calls ys :=
  List.filter_append ..

@[simp] theorem lines_append (xs ys : List (Event R)) : lines (xs ++ ys) = lines xs ++ lines ys :=
  List.filterMap_append ..

@[simp] theorem calls_status_cons (level : Level) (text : String) (xs : List (Event R)) :
    calls (.status level text :: xs) = calls xs := rfl

@[simp] theorem lines_status_cons (level : Level) (text : String) (xs : List (Event R)) :
    lines (.status level text :: xs) = (level, text) :: lines xs := rfl

theorem calls_eq_self {xs : List (Event R)} (h : ∀ e ∈ xs, e.isCall = true) : calls xs = xs :=
  List.filter_eq_self.mpr h

/-- Calls say nothing. -/
theorem lines_eq_nil {xs : List (Event R)} (h : ∀ e ∈ xs, e.isCall = true) : lines xs = [] := by
  apply List.filterMap_eq_nil_iff.mpr
  intro e he
  cases e with
  | status level text => cases h _ he
  | _ => rfl

theorem mem_calls {e : Event R} {xs : List (Event R)} :
    e ∈ calls xs ↔ e ∈ xs ∧ e.isCall = true := List.mem_filter

theorem mem_lines {level : Level} {text : String} {xs : List (Event R)} :
    (level, text) ∈ lines xs ↔ .status level text ∈ xs := by
  simp only [lines, List.mem_filterMap]
  constructor
  · intro h'
    obtain ⟨e, he, hline⟩ := h'
    cases e with
    | status l t => cases hline; exact he
    | _ => cases hline
  · intro h
    exact ⟨_, h, rfl⟩

end Event

theorem Traced.eq_of_events_of_value {x y : Traced R α} (hevents : x.events = y.events)
    (hvalue : x.value = y.value) : x = y := by
  cases x
  cases y
  exact congr (congrArg Traced.mk hevents) hvalue

theorem Traced.each_events (f : α → Traced R β) (xs : List α) :
    (each f xs).events = xs.flatMap fun x => (f x).events := by
  induction xs with
  | nil => rfl
  | cons x xs ih => simp [each, ih]

theorem Traced.each_value (f : α → Traced R β) (xs : List α) :
    (each f xs).value = xs.map fun x => (f x).value := by
  induction xs with
  | nil => rfl
  | cons x xs ih => simp [each, ih]

end PlaceSearch
