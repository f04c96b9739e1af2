-- SUMMARY: Literals and lists of literals read back as the texts they were written from.
import Mathlib.Logic.Function.Basic
import PlaceSearch.Proofs.Sql.Literal
import PlaceSearch.Sql.Fragment
import PlaceSearch.Text.Blank

/-!
# Exact encodings

A literal is written in two passes over its text, the first for backslashes and the
second for quotation marks, and read in one scan from left to right. The two passes
amount to one backslash in front of each character that needs one, so the scan meets
the characters of the text in order, each of them escaped or harmless, and the closing
delimiter right behind the last. Lists are literals between commas, and a reader of
lists finds each comma just where the scan of a literal stops.
-/

namespace PlaceSearch.Sql.Quote

/-! ## Two passes -/

/-- A text with other characters in the place of one of its characters. -/
def replaceChar (c : Char) (replacement cs : List Char) : List Char :=
  cs.flatMap fun d => if d = c then replacement else [d]

/-- The second pass leaves the backslashes of the first one alone. -/
theorem escape_eq_replaceChar (q : Quote) (cs : List Char) :
    q.escape cs = replaceChar q.char ['\\', q.char] (replaceChar '\\' ['\\', '\\'] cs) := by
  have hchar : ∀ c, q.escapeChar c =
      replaceChar q.char ['\\', q.char] (if c = '\\' then ['\\', '\\'] else [c]) := by
    intro c
    have hne := q.char_ne_backslash
    by_cases hbackslash : c = '\\'
    · simp [escapeChar, replaceChar, hbackslash, hne.symm]
    · by_cases hquote : c = q.char
      · simp [escapeChar, replaceChar, hquote, hne]
      · simp [escapeChar, replaceChar, hbackslash, hquote]
  unfold escape
  rw [replaceChar, replaceChar, List.flatMap_assoc, funext hchar]
  rfl

/-! ## One literal -/

theorem toList_encode (q : Quote) (text : String) :
    (q.encode text).toList = q.delimiter ++ (q.escape text.toList ++ q.delimiter) := by
  rw [encode, String.toList_ofList, List.append_assoc]

/-- Read a literal with both of its delimiters: its text and what follows it. -/
def readChars? (q : Quote) (cs : List Char) : Option (List Char × List Char) :=
  if q.delimiter.isPrefixOf cs then q.scan (cs.drop q.delimiter.length) else none

@[inherit_doc readChars?]
def read? (q : Quote) (text : String) : Option (String × String) :=
  (q.readChars? text.toList).map fun (inner, after) => (String.ofList inner, String.ofList after)

theorem readChars_encode_append (q : Quote) (text : String) (rest : List Char) :
    q.readChars? ((q.encode text).toList ++ rest) = some (text.toList, rest) := by
  rw [toList_encode, List.append_assoc, readChars?, isPrefixOf_delimiter_append, if_pos rfl,
    List.drop_left]
  exact q.scan_escape_append text.toList rest

/-- A literal is read to its closing delimiter and no further, whatever it holds and
    whatever follows it. -/
theorem read_encode_append (q : Quote) (text rest : String) :
    q.read? (q.encode text ++ rest) = some (text, rest) := by
  rw [read?, String.toList_append, readChars_encode_append]
  simp

theorem length_lt_of_readChars_eq_some {q : Quote} {cs text after : List Char}
    (h : q.readChars? cs = some (text, after)) : after.length < cs.length := by
  unfold readChars? at h
  split at h
  · have hscan := length_lt_of_scan_eq_some h
    rw [List.length_drop] at hscan
    omega
  · cases h

/-! ## Lists of literals -/

/-- Read literals with a comma between neighbors; white space may follow a comma. -/
def readItems? (q : Quote) (cs : List Char) : Option (List String) :=
  match _h : q.readChars? cs with
  | none => none
  | some (text, []) => some [String.ofList text]
  | some (text, c :: rest) =>
    if c = ',' then
      (readItems? q (rest.dropWhile Text.isBlank)).map (String.ofList text :: ·)
    else none
termination_by cs.length
decreasing_by
  have hread := length_lt_of_readChars_eq_some _h
  have hdrop := (List.dropWhile_suffix Text.isBlank (l := rest)).length_le
  rw [List.length_cons] at hread
  omega

/-- Read a list of literals up to the end of a text. A text without any is the empty list. -/
def readList? (q : Quote) (text : String) : Option (List String) :=
  if text.isEmpty then some [] else readItems? q text.toList

theorem readItems_nil (q : Quote) : q.readItems? [] = none := by
  have hread : q.readChars? [] = none := by cases q <;> rfl
  rw [readItems?]
  split <;> simp_all

theorem readItems_of_end {q : Quote} {cs text : List Char} (h : q.readChars? cs = some (text, [])) :
    q.readItems? cs = some [String.ofList text] := by
  rw [readItems?]
  split <;> simp_all

theorem readItems_of_comma {q : Quote} {cs text rest : List Char}
    (h : q.readChars? cs = some (text, ',' :: rest)) :
    q.readItems? cs =
      (q.readItems? (rest.dropWhile Text.isBlank)).map (String.ofList text :: ·) := by
  rw [readItems?]
  split <;> simp_all

/-- A literal starts visibly, so the white space in front of it ends there. -/
theorem dropWhile_isBlank_encode_append (q : Quote) (text : String) (rest : List Char) :
    ((q.encode text).toList ++ rest).dropWhile Text.isBlank = (q.encode text).toList ++ rest := by
  have hvisible : Text.isBlank q.char = false := by cases q <;> decide
  obtain ⟨tail, htail⟩ := q.delimiter_eq_cons
  rw [toList_encode, htail]
  simp [hvisible]

theorem render_literals_singleton (q : Quote) (text : String) :
    (Fragment.literals q [text]).render = q.encode text := by
  simp [Fragment.literals, Fragment.join, Fragment.literal, Piece.render]

theorem render_literals_cons_cons (q : Quote) (first second : String) (more : List String) :
    (Fragment.literals q (first :: second :: more)).render =
      q.encode first ++ (", " ++ (Fragment.literals q (second :: more)).render) := by
  simp only [Fragment.literals, Fragment.join, List.map_cons, List.intercalate_cons_cons]
  rw [Fragment.render_append, Fragment.render_append]
  simp [Fragment.literal, Fragment.code, Piece.render, String.append_assoc]

/-- A list is written as its literals with a comma and a space between neighbors. -/
theorem render_literals (q : Quote) (texts : List String) :
    (Fragment.literals q texts).render = ", ".intercalate (texts.map q.encode) := by
  induction texts with
  | nil => rfl
  | cons first more ih =>
    cases more with
    | nil => rw [render_literals_singleton, List.map_singleton, String.intercalate_singleton]
    | cons second more =>
      rw [render_literals_cons_cons, ih]
      simp [String.append_assoc]

/-- By induction on the list: behind each literal but the last stand a comma, a space and
    the list of the others. -/
theorem readItems_literals (q : Quote) (first : String) (more : List String) :
    q.readItems? (Fragment.literals q (first :: more)).render.toList = some (first :: more) := by
  induction more generalizing first with
  | nil =>
    have hread := q.readChars_encode_append first []
    rw [List.append_nil] at hread
    rw [render_literals_singleton, readItems_of_end hread, String.ofList_toList]
  | cons second more ih =>
    have hstart : ∃ rest, (Fragment.literals q (second :: more)).render.toList =
        (q.encode second).toList ++ rest := by
      cases more with
      | nil => exact ⟨[], by rw [render_literals_singleton, List.append_nil]⟩
      | cons third more => exact ⟨_, by rw [render_literals_cons_cons, String.toList_append]⟩
    obtain ⟨rest, hrest⟩ := hstart
    have hread := q.readChars_encode_append first
      (',' :: ' ' :: (Fragment.literals q (second :: more)).render.toList)
    have hblank : (' ' :: (Fragment.literals q (second :: more)).render.toList).dropWhile
        Text.isBlank = (Fragment.literals q (second :: more)).render.toList := by
      rw [List.dropWhile_cons_of_pos (by decide), hrest, dropWhile_isBlank_encode_append]
    rw [render_literals_cons_cons, String.toList_append, String.toList_append]
    have hall := readItems_of_comma hread
    rw [hblank, ih second, String.ofList_toList] at hall
    exact hall

theorem readList_literals (q : Quote) (texts : List String) :
    q.readList? (Fragment.literals q texts).render = some texts := by
  cases texts with
  | nil => rfl
  | cons first more =>
    have hread := q.readItems_literals first more
    unfold readList?
    split
    · next hempty =>
      rw [String.isEmpty_iff.mp hempty, String.toList_empty, readItems_nil] at hread
      cases hread
    · exact hread

/-! ## Exactness -/

/-- Nothing is lost in a quote style: literals and lists of them are read back. -/
structure EncodesExactly (q : Quote) : Prop where
  /-- Between the delimiters, backslashes are doubled first, and then a backslash is put in
      front of each quotation mark. -/
  encode_eq : ∀ text, q.encode text = String.ofList (q.delimiter ++
    replaceChar q.char ['\\', q.char] (replaceChar '\\' ['\\', '\\'] text.toList) ++ q.delimiter)
  /-- A scan takes up the whole literal and leaves what follows it. -/
  read_encode : ∀ text rest, q.read? (q.encode text ++ rest) = some (text, rest)
  readList_render : ∀ texts, q.readList? (Fragment.literals q texts).render = some texts
  encode_injective : Function.Injective q.encode
  render_injective : Function.Injective fun texts => (Fragment.literals q texts).render

/-- All quote styles are exact. -/
theorem encodesExactly (q : Quote) : q.EncodesExactly where
  encode_eq text := by rw [encode, escape_eq_replaceChar]
  read_encode := q.read_encode_append
  readList_render := q.readList_literals
  encode_injective := by
    intro text other h
    have hread := q.read_encode_append text ""
    rw [h, read_encode_append] at hread
    exact (Prod.mk.inj (Option.some.inj hread)).1.symm
  render_injective := by
    intro texts others h
    have hread := q.readList_literals texts
    rw [show (Fragment.literals q texts).render = (Fragment.literals q others).render from h,
      readList_literals] at hread
    exact (Option.some.inj hread).symm

end PlaceSearch.Sql.Quote
