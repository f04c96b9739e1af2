-- SUMMARY: Result cells and the wrapped JSON form in which they travel.
import PlaceSearch.Json.Value
import PlaceSearch.Number.Reading

/-!
# Cells

A result travels as JSON in which every value is wrapped: items of an array as
objects with a member `v`, records as objects with a member `f` that lists such
objects. A cell is the value without the wrapping. Scalars stay texts; whoever
knows the type of a column converts them.
-/

namespace PlaceSearch

open Json (Value)

inductive Cell where
  | null
  | scalar (text : String)
  | array (items : List Cell)
  | record (fields : List Cell)

namespace Cell

-- ---------------------------------------------------------------------------
-- Decoding
-- ---------------------------------------------------------------------------

mutual

/-- Take the wrapping off. An object with a list `f` is a record, another with a
    member `v` stands for that member, and any other object for its own text. -/
def decode : Value → Cell
  | .null => .null
  | .bool b => .scalar (if b then "true" else "false")
  | .number n => .scalar n.render
  | .text s => .scalar s
  | .array items => .array (decodeItems items)
  | .object members =>
    match decodeRecord members with
    | some fields => .record fields
    | none =>
      match decodeWrapped members with
      | some cell => cell
      | none => .scalar (Value.object members).render

/-- The items of an array. -/
def decodeItems : List Value → List Cell
  | [] => []
  | v :: rest => decode v :: decodeItems rest

/-- The member `v` of an object. -/
def decodeWrapped : List (String × Value) → Option Cell
  | [] => none
  | (key, v) :: rest => if key = "v" then some (decode v) else decodeWrapped rest

/-- The member `f` of an object, if it is a list. -/
def decodeRecord : List (String × Value) → Option (List Cell)
  | [] => none
  | (key, .array items) :: rest =>
    if key = "f" then some (decodeFields items) else decodeRecord rest
  | (key, _) :: rest => if key = "f" then none else decodeRecord rest

/-- The fields of a record; what is not wrapped is null. -/
def decodeFields : List Value → List Cell
  | [] => []
  | .object members :: rest => (decodeWrapped members).getD .null :: decodeFields rest
  | _ :: rest => .null :: decodeFields rest

end

-- ---------------------------------------------------------------------------
-- Encoding
-- ---------------------------------------------------------------------------

mutual

/-- Put the wrapping on. -/
def encode : Cell → Value
  | .null => .null
  | .scalar text => .text text
  | .array items => .array (encodeItems items)
  | .record fields => .object [("f", .array (encodeItems fields))]

/-- Items or fields, each wrapped. -/
def encodeItems : List Cell → List Value
  | [] => []
  | c :: rest => .object [("v", encode c)] :: encodeItems rest

end

-- ---------------------------------------------------------------------------
-- Views
-- ---------------------------------------------------------------------------

mutual

/-- The text of a cell: arrays in brackets, records in braces. -/
def render : Cell → String
  | .null => "null"
  | .scalar text => text
  | .array items => "[" ++ ", ".intercalate (renderAll items) ++ "]"
  | .record fields => "\x7b" ++ ", ".intercalate (renderAll fields) ++ "\x7d"

/-- The texts of several cells. -/
def renderAll : List Cell → List String
  | [] => []
  | c :: rest => render c :: renderAll rest

end

def isNull : Cell → Bool
  | .null => true
  | _ => false

/-- The text of a scalar. -/
def text? : Cell → Option String
  | .scalar text => some text
  | _ => none

/-- The items of an array. -/
def items? : Cell → Option (List Cell)
  | .array items => some items
  | _ => none

/-- The least and the greatest integer of 64 bits. -/
def int64Min : Int := -9223372036854775808

@[inherit_doc int64Min]
def int64Max : Int := 9223372036854775807

/-- A scalar as an integer of 64 bits; a fraction is cut off, and what is out of
    range becomes the nearest bound. -/
def int? (c : Cell) : Option Int :=
  c.text?.bind fun text =>
    (readIntBetween? int64Min int64Max text).orElse fun _ =>
      (readFloat? text).map (truncateBetween int64Min int64Max)

/-- A scalar as binary64. -/
def float? (c : Cell) : Option Float := c.text?.bind readFloat?

/-- A scalar as a count; what is negative or cannot be read counts as zero. -/
def count (c : Cell) : Nat := (c.int?.getD 0).toNat

end Cell

end PlaceSearch
