-- SUMMARY: JSON documents as trees, built from tokens by a machine with a stack of open containers.
import PlaceSearch.Json.Token

/-!
# JSON trees

`Tree.ofTokens?` accepts exactly the token sequences of one JSON value. The
containers still open are a list, so the machine takes one step per token and
no nesting is too deep for it; limits on nesting belong to the use of a tree.
-/

namespace PlaceSearch.Json

/-- A JSON value as written: members in order, repeated keys kept. -/
inductive Tree where
  | null
  | bool (b : Bool)
  | number (n : Numeral)
  | text (content : Option String)
  | array (items : List Tree)
  | object (members : List (Option String × Tree))

/-- An open container with what it holds so far, newest first. -/
inductive Frame where
  | array (items : List Tree)
  | object (members : List (Option String × Tree))
  /-- An object that waits for the value of a key. -/
  | member (members : List (Option String × Tree)) (key : Option String)

/-- What may come next. -/
inductive Expected where
  | value
  | valueOrEnd
  | key
  | keyOrEnd
  | colon (key : Option String)
  /-- A value has just ended. -/
  | after (t : Tree)

/-- A token that is a value by itself. -/
def Token.scalar? : Token → Option Tree
  | .null => some .null
  | .bool b => some (.bool b)
  | .number n => some (.number n)
  | .text t => some (.text t)
  | _ => none

/-- One token of a value: a scalar, or the start of a container. -/
def startValue (stack : List Frame) (t : Token) : Option (List Frame × Expected) :=
  match t with
  | .openArray => some (.array [] :: stack, .valueOrEnd)
  | .openObject => some (.object [] :: stack, .keyOrEnd)
  | t => t.scalar?.map fun v => (stack, .after v)

/-- Take one token. -/
def step (state : List Frame × Expected) (t : Token) : Option (List Frame × Expected) :=
  match state, t with
  | (.array items :: stack, .valueOrEnd), .closeArray => some (stack, .after (.array items))
  | (stack, .value), t => startValue stack t
  | (stack, .valueOrEnd), t => startValue stack t
  | (.object members :: stack, .keyOrEnd), .closeObject => some (stack, .after (.object members))
  | (stack, .key), .text k => some (stack, .colon k)
  | (stack, .keyOrEnd), .text k => some (stack, .colon k)
  | (.object members :: stack, .colon k), .colon => some (.member members k :: stack, .value)
  | (.array items :: stack, .after v), .comma => some (.array (v :: items) :: stack, .value)
  | (.array items :: stack, .after v), .closeArray =>
    some (stack, .after (.array (v :: items).reverse))
  | (.member members k :: stack, .after v), .comma =>
    some (.object ((k, v) :: members) :: stack, .key)
  | (.member members k :: stack, .after v), .closeObject =>
    some (stack, .after (.object ((k, v) :: members).reverse))
  | _, _ => none

/-- The value that a token sequence writes. -/
def Tree.ofTokens? (ts : List Token) : Option Tree :=
  match ts.foldlM step ([], .value) with
  | some ([], .after v) => some v
  | _ => none

/-- The value that a text writes. -/
def Tree.ofString? (text : String) : Option Tree := (tokens? text).bind Tree.ofTokens?

end PlaceSearch.Json
