-- SUMMARY: Full upper and lower case of texts, with the final sigma.
import PlaceSearch.Text.Blank
import PlaceSearch.Text.CaseData

/-!
# Letter case

Case mapping is the full one: a character may become several, and a capital
sigma becomes the final form at the end of a word. Where the word ends is
decided by the nearest characters on both sides that are not case-ignorable.
-/

namespace PlaceSearch.Text

open CaseData

/-- The image of a character under special maps first, simple maps second. -/
def mapCase (special : List (Nat × List Nat)) (runs : List Run) (c : Char) : List Char :=
  match special.find? fun entry => entry.1 == c.toNat with
  | some (_, image) => image.map Char.ofNat
  | none =>
    match runs.findSome? fun r => r.image? c.toNat with
    | some n => [Char.ofNat n]
    | none => [c]

/-- Upper case of one character. -/
def upperChar (c : Char) : List Char := mapCase upperSpecial upperRuns c

/-- Lower case of one character, surroundings left aside. -/
def lowerChar (c : Char) : List Char := mapCase lowerSpecial lowerRuns c

/-- The first character that is not case-ignorable exists and has case. -/
def startsCased (cs : List Char) : Bool :=
  match cs.dropWhile fun c => inRanges ignorableRanges c.toNat with
  | [] => false
  | c :: _ => inRanges casedRanges c.toNat

/-- Lower case of the remaining characters; `before` holds those already passed, nearest first. -/
def lowerFrom (before : List Char) : List Char → List Char
  | [] => []
  | c :: rest =>
    (if c = 'Σ' then [if startsCased before && !startsCased rest then 'ς' else 'σ']
      else lowerChar c) ++ lowerFrom (c :: before) rest

/-- Lower case of a text. -/
def lower (cs : List Char) : List Char := lowerFrom [] cs

/-- The first character in upper case, the others as they are. -/
def capitalize : List Char → List Char
  | [] => []
  | c :: rest => upperChar c ++ rest

/-- Everything in lower case, then the first character after each space in upper case. -/
def titleCase (s : String) : String :=
  String.ofList ([' '].intercalate ((splitOn ' ' (lower s.toList)).map capitalize))

end PlaceSearch.Text
