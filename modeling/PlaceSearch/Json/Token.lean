-- SUMMARY: The tokens of a JSON document, with numbers and escaped texts kept as written.
import PlaceSearch.Number.Reading

/-!
# JSON tokens

A token keeps what a later stage may object to. A numeral may be out of range
and a text may contain an unpaired surrogate escape; both are faults only where
the value is used, not where it is passed over.
-/

namespace PlaceSearch.Json

/-- A number as written: sign, digits before and after the point, exponent. -/
structure Numeral where
  negative : Bool
  whole : List Char
  fraction : Option (List Char)
  exponent : Option (Bool × List Char)
deriving DecidableEq, Repr

/-- One element of a quoted text: a character, or the code of a `\u` escape. -/
inductive Piece where
  | char (c : Char)
  | code (n : Nat)
deriving DecidableEq, Repr

inductive Token where
  | openArray
  | closeArray
  | openObject
  | closeObject
  | comma
  | colon
  | null
  | bool (b : Bool)
  | number (n : Numeral)
  /-- A quoted text; `none` if its escapes hold an unpaired surrogate. -/
  | text (content : Option String)
deriving DecidableEq, Repr

-- ---------------------------------------------------------------------------
-- Quoted texts
-- ---------------------------------------------------------------------------

/-- The value of a hexadecimal digit in either case. -/
def hexValue? (c : Char) : Option Nat :=
  if '0' ≤ c ∧ c ≤ '9' then some (c.toNat - '0'.toNat)
  else if 'a' ≤ c ∧ c ≤ 'f' then some (c.toNat - 'a'.toNat + 10)
  else if 'A' ≤ c ∧ c ≤ 'F' then some (c.toNat - 'A'.toNat + 10)
  else none

/-- The number written by hexadecimal digits. -/
def hexNumber? (cs : List Char) : Option Nat :=
  cs.foldlM (fun n c => (hexValue? c).map (16 * n + ·)) 0

/-- The character of a one-letter escape. -/
def simpleEscape? : Char → Option Char
  | '"' => some '"'
  | '\\' => some '\\'
  | '/' => some '/'
  | 'b' => some '\x08'
  | 'f' => some '\x0C'
  | 'n' => some '\n'
  | 'r' => some '\r'
  | 't' => some '\t'
  | _ => none

/-- Read a text after its opening quote: its pieces and what follows the closing
    quote. Control characters must be escaped. -/
def quoted : List Char → Option (List Piece × List Char)
  | [] => none
  | '"' :: rest => some ([], rest)
  | '\\' :: 'u' :: a :: b :: c :: d :: rest =>
    (hexNumber? [a, b, c, d]).bind fun n => (quoted rest).map fun (ps, r) => (.code n :: ps, r)
  | '\\' :: e :: rest =>
    (simpleEscape? e).bind fun c => (quoted rest).map fun (ps, r) => (.char c :: ps, r)
  | c :: rest =>
    if c.toNat < 0x20 then none else (quoted rest).map fun (ps, r) => (.char c :: ps, r)

/-- The characters of the pieces. Two codes of a surrogate pair make one
    character; a surrogate without its partner makes none. -/
def joinPieces : List Piece → Option (List Char)
  | [] => some []
  | .char c :: rest => (joinPieces rest).map (c :: ·)
  | [.code n] => if 0xD800 ≤ n ∧ n < 0xE000 then none else some [Char.ofNat n]
  | .code n :: .char c :: rest =>
    if 0xD800 ≤ n ∧ n < 0xE000 then none
    else (joinPieces rest).map (Char.ofNat n :: c :: ·)
  | .code n :: .code m :: rest =>
    if 0xD800 ≤ n ∧ n < 0xDC00 then
      if 0xDC00 ≤ m ∧ m < 0xE000 then
        (joinPieces rest).map (Char.ofNat (0x10000 + (n - 0xD800) * 0x400 + (m - 0xDC00)) :: ·)
      else none
    else if 0xDC00 ≤ n ∧ n < 0xE000 then none
    else (joinPieces (.code m :: rest)).map (Char.ofNat n :: ·)

-- ---------------------------------------------------------------------------
-- Numbers
-- ---------------------------------------------------------------------------

/-- A decimal digit. -/
def isDigit (c : Char) : Bool := (digitValue? c).isSome

/-- Leading digits, at least one, and the rest. -/
def digits1? (cs : List Char) : Option (List Char × List Char) :=
  match cs.takeWhile isDigit with
  | [] => none
  | ds => some (ds, cs.dropWhile isDigit)

/-- Digits before the point: a zero stands alone. -/
def whole? : List Char → Option (List Char × List Char)
  | '0' :: rest => if (rest.head?.map isDigit).getD false then none else some (['0'], rest)
  | cs => digits1? cs

/-- An optional fraction: a point and at least one digit. -/
def fraction? : List Char → Option (Option (List Char) × List Char)
  | '.' :: rest => (digits1? rest).map fun (ds, r) => (some ds, r)
  | cs => some (none, cs)

/-- An optional exponent: whether it is negative, and its digits. -/
def exponent? : List Char → Option (Option (Bool × List Char) × List Char)
  | c :: rest =>
    if c = 'e' ∨ c = 'E' then
      let (negative, rest) := takeSign rest
      (digits1? rest).map fun (ds, r) => (some (negative, ds), r)
    else some (none, c :: rest)
  | [] => some (none, [])

/-- A number at the front, after an optional minus sign. -/
def numeral? (negative : Bool) (cs : List Char) : Option (Numeral × List Char) :=
  (whole? cs).bind fun (whole, cs) => (fraction? cs).bind fun (fraction, cs) =>
    (exponent? cs).map fun (exponent, cs) => (⟨negative, whole, fraction, exponent⟩, cs)

-- ---------------------------------------------------------------------------
-- The token sequence
-- ---------------------------------------------------------------------------

/-- The token at the front of a text that does not start with a space. -/
def token? : List Char → Option (Token × List Char)
  | [] => none
  | '[' :: rest => some (.openArray, rest)
  | ']' :: rest => some (.closeArray, rest)
  | '\x7b' :: rest => some (.openObject, rest)
  | '\x7d' :: rest => some (.closeObject, rest)
  | ',' :: rest => some (.comma, rest)
  | ':' :: rest => some (.colon, rest)
  | '"' :: rest =>
    (quoted rest).map fun (ps, r) => (.text ((joinPieces ps).map String.ofList), r)
  | 'n' :: 'u' :: 'l' :: 'l' :: rest => some (.null, rest)
  | 't' :: 'r' :: 'u' :: 'e' :: rest => some (.bool true, rest)
  | 'f' :: 'a' :: 'l' :: 's' :: 'e' :: rest => some (.bool false, rest)
  | '-' :: rest => (numeral? true rest).map fun (n, r) => (.number n, r)
  | cs => (numeral? false cs).map fun (n, r) => (.number n, r)

/-- The four characters that may stand between tokens. -/
def isSpace (c : Char) : Bool := c == ' ' || c == '\t' || c == '\n' || c == '\r'

/-- All tokens; every token takes at least one character, which bounds their number. -/
def tokensWithin : Nat → List Char → Option (List Token)
  | 0, cs => if (cs.dropWhile isSpace).isEmpty then some [] else none
  | fuel + 1, cs =>
    match cs.dropWhile isSpace with
    | [] => some []
    | c :: rest =>
      (token? (c :: rest)).bind fun (t, r) => (tokensWithin fuel r).map (t :: ·)

/-- The tokens of a text, if it consists of tokens and spaces. -/
def tokens? (text : String) : Option (List Token) :=
  tokensWithin text.length text.toList

end PlaceSearch.Json
