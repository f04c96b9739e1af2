-- SUMMARY: Addresses of services: percent-encoding, dot segments, and the path and query that are sent.
import PlaceSearch.Text.Blank

/-!
# Addresses

An address is `scheme://authority/path?query#fragment`. Only the path and the
query are sent. Characters that may not stand there are written as their UTF-8
bytes in hexadecimal, dot segments are resolved, and the fragment stays behind.
-/

namespace PlaceSearch.Url

-- ---------------------------------------------------------------------------
-- Percent-encoding
-- ---------------------------------------------------------------------------

/-- A byte as `%XX`. -/
def percentByte (b : UInt8) : List Char :=
  let hex (n : Nat) : Char := (Nat.digitChar n).toUpper
  ['%', hex (b.toNat / 16), hex (b.toNat % 16)]

/-- A character as it is, or as its UTF-8 bytes. -/
def percentChar (mayStand : Char → Bool) (c : Char) : List Char :=
  if mayStand c then [c] else (String.utf8EncodeChar c).flatMap percentByte

/-- A text with the characters encoded that may not stand. -/
def percentEncode (mayStand : Char → Bool) (cs : List Char) : List Char :=
  cs.flatMap (percentChar mayStand)

/-- A visible ASCII character. -/
def isVisible (c : Char) : Bool := '!' ≤ c && c ≤ '~'

/-- What may stand in a path. -/
def inPath (c : Char) : Bool := isVisible c && !("\"#<>?`\x7b\x7d".toList.contains c)

/-- What may stand in a query. -/
def inQuery (c : Char) : Bool := isVisible c && !("\"#<>'".toList.contains c)

/-- What a form leaves as it is. -/
def inForm (c : Char) : Bool := c.isAlphanum || "*-._".toList.contains c

/-- A text as a form writes it: a space becomes a plus sign. -/
def formText (text : String) : List Char :=
  text.toList.flatMap fun c => if c = ' ' then ['+'] else percentChar inForm c

/-- Named values as a form writes them. -/
def form (fields : List (String × String)) : List Char :=
  ['&'].intercalate (fields.map fun (name, value) => formText name ++ '=' :: formText value)

-- ---------------------------------------------------------------------------
-- Paths
-- ---------------------------------------------------------------------------

/-- A dot in its two spellings. -/
def dots : List String := [".", "%2e"]

/-- A segment that stands for the directory itself. -/
def isHere (segment : List Char) : Bool :=
  dots.contains (String.ofList (segment.map Char.toLower))

/-- A segment that stands for the directory above. -/
def isAbove (segment : List Char) : Bool :=
  let text := String.ofList (segment.map Char.toLower)
  dots.any fun a => dots.any fun b => text == a ++ b

/-- Resolve dot segments, with the segments before the ones at hand in reverse. -/
def resolveFrom (before : List (List Char)) : List (List Char) → List (List Char)
  | [] => before.reverse
  | [last] =>
    if isAbove last then (([] : List Char) :: before.tail).reverse
    else if isHere last then (([] : List Char) :: before).reverse
    else (last :: before).reverse
  | segment :: rest =>
    if isAbove segment then resolveFrom before.tail rest
    else if isHere segment then resolveFrom before rest
    else resolveFrom (segment :: before) rest

/-- A path as it is sent: never empty, its dot segments resolved. -/
def path (cs : List Char) : List Char :=
  let segments := Text.splitBy (fun c => c == '/' || c == '\\') (cs.drop 1)
  '/' :: ['/'].intercalate ((resolveFrom [] segments).map (percentEncode inPath))

-- ---------------------------------------------------------------------------
-- Addresses
-- ---------------------------------------------------------------------------

/-- The text without white space around it and without line breaks and tabs in it. -/
def clean (text : String) : List Char :=
  (Text.stripWhile (fun c => c ≤ ' ') text.toList).filter fun c => !("\t\n\r".toList.contains c)

/-- What follows the authority. -/
def afterAuthority (cs : List Char) : List Char :=
  let afterScheme := (cs.dropWhile (· != ':')).drop 3
  afterScheme.dropWhile fun c => !("/\\?#".toList.contains c)

/-- The path and query of an address as they are sent, with form fields behind
    the query. -/
def target (address : String) (fields : List (String × String)) : String :=
  let cs := (afterAuthority (clean address)).takeWhile (· != '#')
  let given := percentEncode inQuery ((cs.dropWhile (· != '?')).drop 1)
  let query := ['&'].intercalate ([given, form fields].filter fun part => !part.isEmpty)
  String.ofList (path (cs.takeWhile (· != '?')) ++
    if cs.contains '?' || !fields.isEmpty then '?' :: query else [])

/-- An address without the slashes at its end. -/
def withoutTrailingSlashes (address : String) : String :=
  String.ofList (Text.dropEndWhile (· == '/') address.toList)

end PlaceSearch.Url
