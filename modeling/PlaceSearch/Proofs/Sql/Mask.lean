-- SUMMARY: Statement texts with their literals masked, and fragments whose literals a scanner finds where they are.
import PlaceSearch.Proofs.Sql.Literal
import PlaceSearch.Sql.Fragment

/-!
# Masked texts

A scanner reads a statement from left to right and puts one mark in the place of
every complete literal. What is left is the part of a statement that no literal
text can reach. The same scanner can keep the texts: `lex` gives the characters
outside literals and the literals with what they hold. A fragment knows where its
literals are; `lex_render` and `mask_render` say that the scanner finds exactly
those, provided that no code holds a quotation mark and no literal stands directly
in front of another one.
-/

namespace PlaceSearch.Sql

/-- A character outside literals, or the place of a literal. -/
inductive Mark where
  | char (c : Char)
  | literal (q : Quote)
  /-- The place of a name that was put aside; masking alone puts none aside. -/
  | columnName
deriving DecidableEq, Repr

/-- A text without literals as marks. -/
def Mark.ofString (text : String) : List Mark := text.toList.map .char

/-- The style of the literal that starts here, if one does. Three quotation marks
    are one delimiter. -/
def Quote.opening? : List Char → Option Quote
  | '\'' :: _ => some .single
  | '"' :: '"' :: '"' :: _ => some .triple
  | '"' :: _ => some .double
  | _ => none

/-- The marks of a text, `none` if it ends inside a literal. -/
def maskChars (cs : List Char) : Option (List Mark) :=
  match cs with
  | [] => some []
  | c :: rest =>
    match Quote.opening? (c :: rest) with
    | none => (maskChars rest).map (.char c :: ·)
    | some q =>
      match _h : q.scan ((c :: rest).drop q.delimiter.length) with
      | none => none
      | some (_, after) => (maskChars after).map (.literal q :: ·)
termination_by cs.length
decreasing_by
  · simp
  · have := Quote.length_lt_of_scan_eq_some _h
    simp only [List.length_drop] at this
    omega

@[inherit_doc maskChars]
def mask (text : String) : Option (List Mark) := maskChars text.toList

/-! ## Lexemes -/

/-- A character outside literals, or a whole literal with its text. -/
inductive Lexeme where
  | char (c : Char)
  | literal (q : Quote) (text : String)
deriving DecidableEq, Repr

/-- A text without literals as lexemes. -/
def Lexeme.ofString (text : String) : List Lexeme := text.toList.map .char

/-- What is left of a lexeme in a masked text. -/
def Lexeme.mark : Lexeme → Mark
  | .char c => .char c
  | .literal q _ => .literal q

/-- The lexemes of a text, `none` if it ends inside a literal. -/
def lexChars (cs : List Char) : Option (List Lexeme) :=
  match cs with
  | [] => some []
  | c :: rest =>
    match Quote.opening? (c :: rest) with
    | none => (lexChars rest).map (.char c :: ·)
    | some q =>
      match _h : q.scan ((c :: rest).drop q.delimiter.length) with
      | none => none
      | some (text, after) => (lexChars after).map (.literal q (String.ofList text) :: ·)
termination_by cs.length
decreasing_by
  · simp
  · have := Quote.length_lt_of_scan_eq_some _h
    simp only [List.length_drop] at this
    omega

@[inherit_doc lexChars]
def lex (text : String) : Option (List Lexeme) := lexChars text.toList

/-- A masked text is a text without the contents of its literals. -/
theorem mask_eq_map_lex (text : String) : mask text = (lex text).map (·.map Lexeme.mark) := by
  unfold mask lex
  fun_induction lexChars text.toList with
  | case1 => simp [maskChars]
  | case2 c rest hopening ih =>
    rw [maskChars, hopening]
    simp [ih, Function.comp_def, Lexeme.mark]
  | case3 c rest q hopening hscan =>
    rw [maskChars, hopening]
    dsimp only
    split
    · rfl
    · next hsome => rw [hscan] at hsome; cases hsome
  | case4 c rest q hopening text after hscan ih =>
    rw [maskChars, hopening]
    dsimp only
    split
    · next hnone => rw [hscan] at hnone; cases hnone
    · next hsome =>
      rw [hscan] at hsome
      obtain ⟨-, rfl⟩ := Prod.mk.inj (Option.some.inj hsome)
      simp [ih, Function.comp_def, Lexeme.mark]

/-! ## Joined lists -/

/-- What two lists in a row have if both have it, a joined list has. -/
theorem intercalate_of_append {α : Type} {P : List α → Prop} (hnil : P [])
    (happend : ∀ {a b}, P a → P b → P (a ++ b)) {separator : List α} {parts : List (List α)}
    (hsep : P separator) (h : ∀ p ∈ parts, P p) : P (separator.intercalate parts) := by
  induction parts with
  | nil => exact hnil
  | cons p rest ih =>
    have hp := h p (List.mem_cons_self ..)
    have hrest := ih fun q hq => h q (List.mem_cons_of_mem _ hq)
    cases rest with
    | nil => simpa using hp
    | cons q rest =>
      rw [List.intercalate_cons_cons]
      exact happend (happend hp hsep) hrest

/-- What holds of a separator and of all parts holds of what is joined. -/
theorem forall_mem_intercalate {α : Type} {P : α → Prop} {separator : List α}
    {parts : List (List α)} (hsep : ∀ x ∈ separator, P x) (h : ∀ p ∈ parts, ∀ x ∈ p, P x) :
    ∀ x ∈ separator.intercalate parts, P x :=
  intercalate_of_append (P := fun xs => ∀ x ∈ xs, P x) (by simp)
    (fun ha hb => List.forall_mem_append.mpr ⟨ha, hb⟩) hsep h

/-! ## Code without quotation marks -/

/-- A character that opens a literal. -/
def isQuote (c : Char) : Bool := c == '\'' || c == '"'

/-- No character opens a literal. -/
def Bare (text : String) : Prop := ∀ c ∈ text.toList, isQuote c = false

-- Named, because a decision over all characters would be found first.
instance : DecidablePred Bare := fun text => List.decidableBAll (isQuote · = false) text.toList

@[simp] theorem bare_append {a b : String} : Bare (a ++ b) ↔ Bare a ∧ Bare b := by
  simp [Bare, or_imp, forall_and]

@[simp] theorem bare_toString {text : String} : Bare (toString text) ↔ Bare text := Iff.rfl

theorem isDigit_of_mem_natRepr {n : Nat} {c : Char} (h : c ∈ n.repr.toList) : c.isDigit = true := by
  rw [Nat.toList_repr] at h
  exact Nat.isDigit_of_mem_toDigits (by decide) (by decide) h

@[simp] theorem bare_natRepr (n : Nat) : Bare n.repr := by
  intro c hc
  have hdigit := isDigit_of_mem_natRepr hc
  rw [isQuote, Bool.or_eq_false_iff, beq_eq_false_iff_ne, beq_eq_false_iff_ne]
  exact ⟨by rintro rfl; simp at hdigit, by rintro rfl; simp at hdigit⟩

theorem opening?_cons_of_not_isQuote {c : Char} (rest : List Char) (h : isQuote c = false) :
    Quote.opening? (c :: rest) = none := by
  rw [isQuote, Bool.or_eq_false_iff, beq_eq_false_iff_ne, beq_eq_false_iff_ne] at h
  unfold Quote.opening?
  split
  · next heq => exact absurd (List.cons.inj heq).1 h.1
  · next heq => exact absurd (List.cons.inj heq).1 h.2
  · next heq => exact absurd (List.cons.inj heq).1 h.2
  · rfl

/-- Code is passed over as it is. -/
theorem lexChars_append_of_bare {cs : List Char} (h : ∀ c ∈ cs, isQuote c = false)
    (rest : List Char) :
    lexChars (cs ++ rest) = (lexChars rest).map (cs.map .char ++ ·) := by
  induction cs with
  | nil => simp
  | cons c cs ih =>
    rw [List.cons_append, lexChars,
      opening?_cons_of_not_isQuote _ (h c (List.mem_cons_self ..))]
    simp only [ih fun d hd => h d (List.mem_cons_of_mem _ hd), Option.map_map]
    rfl

/-! ## Literals -/

theorem opening?_quote_cons {rest : List Char} (h : ∀ tail, rest ≠ '"' :: '"' :: tail) :
    Quote.opening? ('"' :: rest) = some .double := by
  unfold Quote.opening?
  split
  · next heq => exact absurd (List.cons.inj heq).1 (by decide)
  · next heq => exact absurd (List.cons.inj heq).2 (h _)
  · rfl
  · next hne => exact absurd rfl (hne _)

theorem head?_escape_ne_char (q : Quote) (text : List Char) :
    (q.escape text).head? ≠ some q.char := by
  cases text with
  | nil => simp [Quote.escape]
  | cons c text =>
    rw [Quote.escape, List.flatMap_cons, Quote.escapeChar]
    split
    · simpa using q.char_ne_backslash.symm
    · next h => simpa using (not_or.mp h).2

/-- A literal is seen in its own style. An empty text between double quotes would
    be taken for the start of a triple delimiter if a third one followed. -/
theorem opening?_literal (q : Quote) (text rest : List Char) (h : rest.head? ≠ some '"') :
    Quote.opening? (q.delimiter ++ (q.escape text ++ q.delimiter ++ rest)) = some q := by
  cases q with
  | single => rfl
  | triple => rfl
  | double =>
    refine opening?_quote_cons fun tail heq => ?_
    cases htext : Quote.double.escape text with
    | nil =>
      have hrest : rest = '"' :: tail := by simpa [htext, Quote.delimiter] using heq
      simp [hrest] at h
    | cons c cs =>
      have hc : c = '"' := by
        rw [htext] at heq
        exact (List.cons.inj heq).1
      exact head?_escape_ne_char .double text (by simp [htext, hc, Quote.char])

/-- A whole literal is one lexeme. -/
theorem lexChars_literal_append (q : Quote) (text rest : List Char) (h : rest.head? ≠ some '"') :
    lexChars (q.delimiter ++ q.escape text ++ q.delimiter ++ rest) =
      (lexChars rest).map (.literal q (String.ofList text) :: ·) := by
  have hopening := opening?_literal q text rest h
  have hscan := q.scan_escape_append text rest
  obtain ⟨tail, htail⟩ := q.delimiter_eq_cons
  have hdrop : (q.char :: (tail ++ (q.escape text ++ q.delimiter ++ rest))).drop q.delimiter.length =
      q.escape text ++ q.delimiter ++ rest := by
    rw [← List.cons_append, ← htail, List.drop_left]
  rw [List.append_assoc, List.append_assoc, ← List.append_assoc (q.escape text)]
  rw [htail, List.cons_append] at hopening ⊢
  rw [← htail] at hopening ⊢
  rw [lexChars]
  split
  · next hnone => rw [hopening] at hnone; cases hnone
  · next q' hsome =>
    obtain rfl : q = q' := Option.some.inj (hopening.symm.trans hsome)
    split
    · next hfail => rw [hdrop, hscan] at hfail; cases hfail
    · next hafter =>
      rw [hdrop, hscan] at hafter
      obtain ⟨rfl, rfl⟩ := Prod.mk.inj (Option.some.inj hafter)
      rfl

/-! ## Fragments -/

/-- The marks of a piece: its characters, or one mark for a literal. -/
def Piece.marks : Piece → List Mark
  | .code text => Mark.ofString text
  | .literal q _ => [.literal q]

/-- The lexemes of a piece: its characters, or one literal. -/
def Piece.lexemes : Piece → List Lexeme
  | .code text => Lexeme.ofString text
  | .literal q text => [.literal q text]

namespace Fragment

/-- The marks of a fragment. The texts of its literals do not matter. -/
def marks (f : Fragment) : List Mark := f.flatMap Piece.marks

/-- The lexemes of a fragment. -/
def lexemes (f : Fragment) : List Lexeme := f.flatMap Piece.lexemes

/-- The fragment does not start with a double quotation mark, so that it may
    stand directly behind a literal. -/
def MayFollow (f : Fragment) : Prop := f.render.toList.head? ≠ some '"'

/-- Literals are where the pieces say: code is bare, and what stands behind a
    literal may stand there. -/
def Scannable : Fragment → Prop
  | [] => True
  | .code text :: rest => Bare text ∧ Scannable rest
  | .literal _ _ :: rest => MayFollow rest ∧ Scannable rest

/-- A scannable fragment that may stand behind a literal. -/
structure Closed (f : Fragment) : Prop where
  scannable : f.Scannable
  mayFollow : f.MayFollow

theorem map_mark_lexemes (f : Fragment) : f.lexemes.map Lexeme.mark = f.marks := by
  have hpiece : ∀ p : Piece, p.lexemes.map Lexeme.mark = p.marks := by
    intro p
    cases p with
    | code text => simp [Piece.lexemes, Piece.marks, Lexeme.ofString, Mark.ofString, Lexeme.mark]
    | literal q text => rfl
  rw [lexemes, marks, List.map_flatMap]
  simp only [hpiece]

/-- The scanner finds the literals of a scannable fragment, with their texts, and
    ends outside them. -/
theorem lex_render {f : Fragment} (h : f.Scannable) : lex f.render = some f.lexemes := by
  unfold lex
  induction f with
  | nil => simp [lexemes, lexChars]
  | cons p rest ih =>
    rw [render_cons, String.toList_append]
    cases p with
    | code text =>
      rw [show (Piece.code text).render = text from rfl, lexChars_append_of_bare h.1, ih h.2]
      rfl
    | literal q text =>
      rw [show (Piece.literal q text).render = q.encode text from rfl, Quote.encode,
        String.toList_ofList, lexChars_literal_append q _ _ h.1, ih h.2, String.ofList_toList]
      rfl

@[inherit_doc lex_render]
theorem mask_render {f : Fragment} (h : f.Scannable) : mask f.render = some f.marks := by
  rw [mask_eq_map_lex, lex_render h, Option.map_some, map_mark_lexemes]

@[simp] theorem marks_nil : marks [] = [] := rfl

@[simp] theorem marks_append (f g : Fragment) : marks (f ++ g) = marks f ++ marks g :=
  List.flatMap_append

@[simp] theorem marks_code (text : String) : marks (code text) = Mark.ofString text := by
  simp [marks, code, Piece.marks]

@[simp] theorem marks_literal (q : Quote) (text : String) :
    marks (literal q text) = [.literal q] := rfl

@[simp] theorem marks_join (separator : String) (parts : List Fragment) :
    marks (join separator parts) =
      List.intercalate (Mark.ofString separator) (parts.map marks) := by
  unfold join
  induction parts with
  | nil => simp
  | cons f rest ih =>
    cases rest with
    | nil => simp
    | cons g rest =>
      rw [List.intercalate_cons_cons, marks_append, marks_append, ih, marks_code]
      simp [List.intercalate_cons_cons]

theorem isEmpty_render (f : Fragment) : f.render.isEmpty = f.marks.isEmpty := by
  induction f with
  | nil => rfl
  | cons p rest ih =>
    rw [Bool.eq_iff_iff, String.isEmpty_iff, List.isEmpty_iff] at ih ⊢
    rw [render_cons, String.append_eq_empty_iff, ih]
    cases p with
    | code text => simp [marks, Piece.marks, Piece.render, Mark.ofString]
    | literal q text =>
      obtain ⟨tail, htail⟩ := q.delimiter_eq_cons
      simp [marks, Piece.marks, Piece.render, Quote.encode, htail]

/-- The marks of spaced parts depend on the marks of the parts only. -/
theorem marks_spaced (parts : List Fragment) :
    marks (spaced parts) =
      List.intercalate (Mark.ofString " ") ((parts.map marks).filter fun ms => !ms.isEmpty) := by
  unfold spaced
  rw [marks_join, List.filter_map]
  simp only [isEmpty_render]
  rfl

/-! ## Closed fragments -/

theorem MayFollow.append {f g : Fragment} (hf : f.MayFollow) (hg : g.MayFollow) :
    (f ++ g).MayFollow := by
  unfold MayFollow at *
  rw [render_append, String.toList_append, List.head?_append]
  cases h : f.render.toList.head? with
  | none => simpa using hg
  | some c => simpa [h] using hf

theorem Scannable.append {f g : Fragment} (hf : f.Scannable) (hg : g.Scannable)
    (hfollow : g.MayFollow) : (f ++ g).Scannable := by
  induction f with
  | nil => exact hg
  | cons p rest ih =>
    cases p with
    | code text => exact ⟨hf.1, ih hf.2⟩
    | literal q text => exact ⟨hf.1.append hfollow, ih hf.2⟩

namespace Closed

theorem nil : Closed [] := ⟨trivial, by simp [MayFollow]⟩

theorem append {f g : Fragment} (hf : f.Closed) (hg : g.Closed) : (f ++ g).Closed :=
  ⟨hf.scannable.append hg.scannable hg.mayFollow, hf.mayFollow.append hg.mayFollow⟩

theorem code {text : String} (h : Bare text) : (Fragment.code text).Closed := by
  refine ⟨⟨h, trivial⟩, ?_⟩
  simp only [MayFollow, Fragment.code, render_cons, render_nil, Piece.render, String.append_empty]
  intro hhead
  have := h _ (List.mem_of_head? hhead)
  exact absurd this (by decide)

/-- A single quoted literal may stand anywhere. -/
theorem singleQuoted (text : String) : (literal .single text).Closed := by
  refine ⟨⟨Closed.nil.mayFollow, trivial⟩, ?_⟩
  simp [MayFollow, literal, Piece.render, Quote.encode, Quote.delimiter]

/-- Code that is not empty shields a literal behind it. -/
theorem code_append {text : String} {f : Fragment} (h : Bare text) (hne : text ≠ "")
    (hf : f.Scannable) : (Fragment.code text ++ f).Closed := by
  refine ⟨⟨h, hf⟩, ?_⟩
  unfold MayFollow
  rw [render_append, String.toList_append, List.head?_append]
  have hmay := (Closed.code h).mayFollow
  have hsome : (Fragment.code text).render.toList.head? ≠ none := by
    simpa [Fragment.code, Piece.render] using hne
  cases hhead : (Fragment.code text).render.toList.head? with
  | none => exact absurd hhead hsome
  | some c => simpa [MayFollow, hhead] using hmay

theorem join {separator : String} {parts : List Fragment} (hsep : Bare separator)
    (h : ∀ f ∈ parts, f.Closed) : (Fragment.join separator parts).Closed :=
  intercalate_of_append nil append (.code hsep) h

end Closed

theorem scannable_literal (q : Quote) (text : String) : (literal q text).Scannable :=
  ⟨Closed.nil.mayFollow, trivial⟩

/-- Literals of any style may stand in a list, since commas separate them. -/
theorem scannable_literals (q : Quote) (texts : List String) : (literals q texts).Scannable := by
  unfold literals join
  induction texts with
  | nil => trivial
  | cons text rest ih =>
    cases rest with
    | nil => simpa using scannable_literal q text
    | cons next rest =>
      rw [List.map_cons, List.map_cons, List.intercalate_cons_cons, List.append_assoc]
      have htail := Closed.code_append (by decide : Bare ", ") (by decide) ih
      exact (scannable_literal q text).append htail.scannable htail.mayFollow

end Fragment

end PlaceSearch.Sql
