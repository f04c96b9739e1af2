-- SUMMARY: White space: the characters, trimming, and the words between them.

/-!
# White space

White space is the Unicode property of that name, 25 characters. Texts are
worked on as lists of characters; the functions on `String` wrap those.
-/

namespace PlaceSearch.Text

/-- White space in the sense of Unicode. -/
def isBlank (c : Char) : Bool :=
  let n := c.toNat
  (0x09 ≤ n && n ≤ 0x0D) || n == 0x20 || n == 0x85 || n == 0xA0 || n == 0x1680 ||
    (0x2000 ≤ n && n ≤ 0x200A) || n == 0x2028 || n == 0x2029 || n == 0x202F ||
    n == 0x205F || n == 0x3000

/-- Drop what satisfies `p` at the end. -/
def dropEndWhile (p : Char → Bool) (cs : List Char) : List Char :=
  (cs.reverse.dropWhile p).reverse

/-- Drop what satisfies `p` at both ends. -/
def stripWhile (p : Char → Bool) (cs : List Char) : List Char :=
  dropEndWhile p (cs.dropWhile p)

/-- Drop white space at both ends. -/
def trimChars (cs : List Char) : List Char := stripWhile isBlank cs

@[inherit_doc trimChars]
def trim (s : String) : String := String.ofList (trimChars s.toList)

/-- The parts between separators: always one more than there are separators. -/
def splitBy (sep : Char → Bool) : List Char → List (List Char)
  | [] => [[]]
  | c :: rest =>
    if sep c then [] :: splitBy sep rest
    else match splitBy sep rest with
      | [] => [[c]]
      | part :: parts => (c :: part) :: parts

/-- The parts of a text between occurrences of one character. -/
def splitOn (sep : Char) (cs : List Char) : List (List Char) := splitBy (· == sep) cs

/-- The maximal runs of characters that are not white space. -/
def words (cs : List Char) : List (List Char) :=
  (splitBy isBlank cs).filter fun w => !w.isEmpty

theorem splitBy_ne_nil (sep : Char → Bool) (cs : List Char) : splitBy sep cs ≠ [] := by
  cases cs with
  | nil => simp [splitBy]
  | cons c rest =>
    simp only [splitBy]
    split
    · simp
    · split <;> simp

end PlaceSearch.Text
