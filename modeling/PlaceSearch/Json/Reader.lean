-- SUMMARY: From JSON trees to values and to typed data, with limits on numbers, texts and nesting.
import PlaceSearch.Json.Tree
import PlaceSearch.Json.Value

/-!
# Reading JSON

A reader takes a part of a tree to data of one type, or refuses it. Readers
judge only what they use: members that no field asks for may hold numbers out
of range, unpaired surrogates and any nesting. `room` is the number of
containers that may still be opened on the way down.
-/

namespace PlaceSearch.Json

/-- How deep arrays and objects may be nested. -/
def nestingLimit : Nat := 127

-- ---------------------------------------------------------------------------
-- Numbers
-- ---------------------------------------------------------------------------

/-- Digits gathered into a significand while it fits 64 bits: the significand,
    the digits taken, and the digits left over. -/
def gather (significand taken : Nat) : List Char → Nat × Nat × List Char
  | [] => (significand, taken, [])
  | c :: rest =>
    let next := 10 * significand + (digitValue? c).getD 0
    if next < Nat.pow 2 64 then gather next (taken + 1) rest else (significand, taken, c :: rest)

/-- The value `significand * 10 ^ exponent` by one multiplication or division, with steps
    of `10 ^ 308` before it for very small numbers; `none` above the range. Each
    operation rounds once. -/
def scaleByTen (significand : Nat) (exponent : Int) : Option Float :=
  go 3 significand.toUInt64.toFloat exponent
where
  go (fuel : Nat) (x : Float) (exponent : Int) : Option Float :=
    if exponent.natAbs ≤ 308 then
      if 0 ≤ exponent then
        let y := x * Float.ofScientific 1 false exponent.toNat
        if y.isInf then none else some y
      else some (x / Float.ofScientific 1 false exponent.natAbs)
    else if x == 0 then some x
    else if 0 ≤ exponent then none
    else match fuel with
      | 0 => some 0
      | fuel + 1 => go fuel (x / Float.ofScientific 1 false 308) (exponent + 308)

namespace Numeral

/-- The written exponent. -/
def power (n : Numeral) : Int :=
  match n.exponent with
  | some (negative, ds) =>
    let e : Int := ((takeDigits 0 0 ds).1 : Nat)
    if negative then -e else e
  | none => 0

/-- The number as binary64, from the digits that fit 64 bits. -/
def float? (n : Numeral) : Option Float :=
  let (whole, _, left) := gather 0 0 n.whole
  let (significand, places) := match n.fraction with
    | some ds => let (s, taken, _) := gather whole 0 ds; (s, taken)
    | none => (whole, 0)
  let exponent : Int := n.power + left.length - places
  (scaleByTen significand exponent).map fun x => if n.negative then -x else x

/-- Integers of 64 bits, signed or unsigned, stay integers; minus zero is no integer. -/
def number? (n : Numeral) : Option Number :=
  match n.fraction, n.exponent with
  | none, none =>
    let magnitude := (takeDigits 0 0 n.whole).1
    if n.negative then
      if 0 < magnitude ∧ magnitude ≤ Nat.pow 2 63 then some (.int (-(magnitude : Int)))
      else n.float?.map .float
    else if magnitude < Nat.pow 2 64 then some (.int magnitude)
    else n.float?.map .float
  | _, _ => n.float?.map .float

end Numeral

/-- A number as binary64. -/
def Number.toFloat : Number → Float
  | .int i => floatOfInt i
  | .float x => x

-- ---------------------------------------------------------------------------
-- Values
-- ---------------------------------------------------------------------------

mutual

/-- A tree as a value: every number in range, every text well-formed, and no
    more than `room` containers inside each other. -/
def Tree.value? (room : Nat) : Tree → Option Value
  | .null => some .null
  | .bool b => some (.bool b)
  | .number n => n.number?.map .number
  | .text t => t.map .text
  | .array items =>
    match room with
    | 0 => none
    | room + 1 => (itemValues? room items).map .array
  | .object members =>
    match room with
    | 0 => none
    | room + 1 => (memberValues? room members).map .ofMembers

/-- The items of an array as values. -/
def itemValues? (room : Nat) : List Tree → Option (List Value)
  | [] => some []
  | t :: rest => (t.value? room).bind fun v => (itemValues? room rest).map (v :: ·)

/-- The members of an object as values, in the order written. -/
def memberValues? (room : Nat) : List (Option String × Tree) → Option (List (String × Value))
  | [] => some []
  | (k, t) :: rest =>
    k.bind fun key => (t.value? room).bind fun v => (memberValues? room rest).map ((key, v) :: ·)

end

-- ---------------------------------------------------------------------------
-- Readers
-- ---------------------------------------------------------------------------

/-- Takes a tree to data of one type within the nesting room left. -/
def Reader (α : Type) : Type := Nat → Tree → Option α

namespace Reader

/-- Any value. -/
def value : Reader Value := fun room t => t.value? room

/-- A text. -/
def text : Reader String := fun _ t =>
  match t with
  | .text content => content
  | _ => none

/-- A truth value. -/
def bool : Reader Bool := fun _ t =>
  match t with
  | .bool b => some b
  | _ => none

/-- A number, whether written as an integer or not. -/
def float : Reader Float := fun _ t =>
  match t with
  | .number n => n.number?.map Number.toFloat
  | _ => none

/-- A natural number up to `high`, written as an integer. -/
def natUpTo (high : Nat) : Reader Nat := fun _ t =>
  match t with
  | .number n =>
    match n.number? with
    | some (.int i) => if 0 ≤ i ∧ i ≤ high then some i.toNat else none
    | _ => none
  | _ => none

/-- Something, or `null`. -/
def nullable {α : Type} (r : Reader α) : Reader (Option α) := fun room t =>
  match t with
  | .null => some none
  | t => (r room t).map some

/-- An array of any length. -/
def list {α : Type} (r : Reader α) : Reader (List α) := fun room t =>
  match t, room with
  | .array items, room + 1 => items.mapM (r room)
  | _, _ => none

/-- An array of exactly two. -/
def pair {α : Type} (r : Reader α) : Reader (α × α) := fun room t =>
  match t, room with
  | .array [a, b], room + 1 => (r room a).bind fun x => (r room b).map fun y => (x, y)
  | _, _ => none

/-- The members of an object, all keys well-formed. -/
def keyed? (members : List (Option String × Tree)) : Option (List (String × Tree)) :=
  members.mapM fun (k, t) => k.map fun key => (key, t)

/-- The tree given to a field. A key given twice is refused. -/
def only? (members : List (String × Tree)) (name : String) : Option (Option Tree) :=
  match members.filter fun m => m.1 == name with
  | [] => some none
  | [(_, t)] => some (some t)
  | _ => none

/-- Split a record into its fields, in the order of `names`. A record is an
    object with these keys, others being passed over, or an array of the fields
    in order, from which the last ones may be missing. -/
def fields (names : List String) : Reader (List (Option Tree)) := fun room t =>
  match t, room with
  | .object members, _ + 1 => (keyed? members).bind fun ms => names.mapM (only? ms)
  | .array items, _ + 1 =>
    if items.length ≤ names.length then
      some (items.map some ++ List.replicate (names.length - items.length) none)
    else none
  | _, _ => none

/-- A record, its fields handed over with the room that is left inside it. -/
def record {α : Type} (names : List String) (build : Nat → List (Option Tree) → Option α) :
    Reader α :=
  fun room t => (fields names room t).bind (build (room - 1))

/-- A field that has to be there. -/
def required {α : Type} (r : Reader α) (room : Nat) (t : Option Tree) : Option α :=
  t.bind (r room)

/-- A field with a value of its own for when it is missing. -/
def withDefault {α : Type} (r : Reader α) (default : α) (room : Nat) (t : Option Tree) :
    Option α :=
  match t with
  | some t => r room t
  | none => some default

/-- A field that may be missing or `null`. -/
def optional {α : Type} (r : Reader α) (room : Nat) (t : Option Tree) : Option (Option α) :=
  withDefault (nullable r) none room t

/-- Read a whole text. -/
def run {α : Type} (r : Reader α) (text : String) : Option α :=
  (Tree.ofString? text).bind (r nestingLimit)

end Reader

end PlaceSearch.Json
