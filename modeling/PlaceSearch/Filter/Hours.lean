-- SUMMARY: Opening hours: days of the week, clock times, and the window a place has to be open across.
import PlaceSearch.Filter.Fault
import PlaceSearch.Number.Reading
import PlaceSearch.Text.Blank

/-!
# Opening hours

A window is a day with a start and an end time, either of which may be open.
-/

namespace PlaceSearch

inductive Weekday where
  | monday
  | tuesday
  | wednesday
  | thursday
  | friday
  | saturday
  | sunday
deriving DecidableEq, Repr

namespace Weekday

def all : List Weekday := [.monday, .tuesday, .wednesday, .thursday, .friday, .saturday, .sunday]

/-- The English name in small letters, which is also the name of the column. -/
def name : Weekday → String
  | .monday => "monday"
  | .tuesday => "tuesday"
  | .wednesday => "wednesday"
  | .thursday => "thursday"
  | .friday => "friday"
  | .saturday => "saturday"
  | .sunday => "sunday"

/-- The first three letters of the name, with a capital. -/
def abbreviation : Weekday → String
  | .monday => "Mon"
  | .tuesday => "Tue"
  | .wednesday => "Wed"
  | .thursday => "Thu"
  | .friday => "Fri"
  | .saturday => "Sat"
  | .sunday => "Sun"

/-- Read a full name or its first three letters, in any letter case. -/
def ofString? (text : String) : Option Weekday :=
  let lower := text.toList.map Char.toLower
  all.find? fun d => lower == d.name.toList || lower == d.name.toList.take 3

end Weekday

/-- A time of day. Second 60 is a leap second. -/
structure ClockTime where
  hour : Nat
  minute : Nat
  second : Nat
deriving DecidableEq, Repr

namespace ClockTime

/-- Two decimal digits. -/
def twoDigits (n : Nat) : String :=
  String.ofList [Nat.digitChar (n / 10 % 10), Nat.digitChar (n % 10)]

/-- The form `HH:MM:SS`. -/
def render (t : ClockTime) : String :=
  s!"{twoDigits t.hour}:{twoDigits t.minute}:{twoDigits t.second}"

/-- One or two digits with white space in front: their value and the rest. -/
def number? (cs : List Char) : Option (Nat × List Char) :=
  match cs.dropWhile Text.isBlank with
  | [] => none
  | a :: rest =>
    (digitValue? a).map fun x =>
      match rest with
      | [] => (x, [])
      | b :: after =>
        match digitValue? b with
        | some y => (10 * x + y, after)
        | none => (x, rest)

/-- A colon at the front. -/
def colon? : List Char → Option (List Char)
  | ':' :: rest => some rest
  | _ => none

/-- Hours and minutes, or hours, minutes and seconds, with nothing behind them. -/
def ofChars? (cs : List Char) : Option ClockTime :=
  (number? cs).bind fun (hour, cs) => (colon? cs).bind fun cs =>
    (number? cs).bind fun (minute, cs) =>
      let second : Option Nat := match cs with
        | [] => some 0
        | cs =>
          (colon? cs).bind fun cs => (number? cs).bind fun (second, cs) =>
            if cs.isEmpty then some second else none
      second.bind fun second =>
        if hour < 24 ∧ minute < 60 ∧ second ≤ 60 then some ⟨hour, minute, second⟩ else none

/-- Read a time; a blank text means none is set. -/
def ofInput (text : String) : Except FilterFault (Option ClockTime) :=
  let cs := Text.trimChars text.toList
  if cs.isEmpty then .ok none
  else match ofChars? cs with
    | some t => .ok (some t)
    | none => .error (.invalidTime (String.ofList cs))

end ClockTime

/-- A day and the times a place has to be open across. -/
structure OpeningWindow where
  day : Weekday
  start : Option ClockTime
  finish : Option ClockTime
deriving DecidableEq, Repr

namespace OpeningWindow

/-- Read the inputs of a form; a blank day means no window. The day is read
    first, then the start, then the end. -/
def ofInputs (day start finish : String) : Except FilterFault (Option OpeningWindow) :=
  let name := Text.trim day
  if name.isEmpty then .ok none
  else match Weekday.ofString? name with
    | none => .error (.unknownDay name)
    | some day => do
      let start ← ClockTime.ofInput start
      let finish ← ClockTime.ofInput finish
      return some ⟨day, start, finish⟩

/-- A day by itself restricts nothing. -/
def isEffective (w : OpeningWindow) : Bool := w.start.isSome || w.finish.isSome

end OpeningWindow

end PlaceSearch
