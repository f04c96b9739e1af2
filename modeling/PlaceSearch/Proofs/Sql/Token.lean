-- SUMMARY: The tokens of a statement text, and how the tokens of joined texts come together.
import Mathlib.Data.List.Forall2
import PlaceSearch.Proofs.Sql.Mask
import PlaceSearch.Sql.Identifier
import PlaceSearch.Text.Blank

/-!
# Tokens

A query engine reads a statement as words, names in backticks, literals and
symbols. A dotted path such as `places.rating` is one word, as is a number. The
reader takes one lexeme at a time and remembers what it is in the middle of, so
the tokens of two texts in a row are those of the first and then those of the
second, unless a word goes on from one into the other.
-/

namespace PlaceSearch.Sql

/-- A unit of a statement. -/
inductive Token where
  /-- A keyword, a name, a dotted path or a number. -/
  | word (text : String)
  /-- A name in backticks. -/
  | quoted (name : String)
  | literal (q : Quote) (text : String)
  | symbol (c : Char)
deriving DecidableEq, Repr

/-- A character of a word. -/
def isWordChar (c : Char) : Bool := isNamePart c || c == '.'

/-- The character that the lexeme adds to a word, if it is of one. -/
def Lexeme.wordChar? : Lexeme → Option Char
  | .char c => if isWordChar c then some c else none
  | .literal .. => none

/-- What a reader is in the middle of. -/
inductive Pending where
  | nothing
  | word (front : List Char)
  | quoted (front : List Char)
deriving DecidableEq

/-- A lexeme outside words and quoted names: its token, and what it starts. -/
def start : Lexeme → List Token × Pending
  | .literal q text => ([.literal q text], .nothing)
  | .char c =>
    if isWordChar c then ([], .word [c])
    else if c = '`' then ([], .quoted [])
    else if Text.isBlank c then ([], .nothing)
    else ([.symbol c], .nothing)

/-- What a lexeme completes, and what is pending behind it. -/
def step : Pending → Lexeme → List Token × Pending
  | .nothing, x => start x
  | .word front, x =>
    match x.wordChar? with
    | some c => ([], .word (front ++ [c]))
    | none => (.word (String.ofList front) :: (start x).1, (start x).2)
  | .quoted front, .char c =>
    if c = '`' then ([.quoted (String.ofList front)], .nothing) else ([], .quoted (front ++ [c]))
  | .quoted front, .literal q text => ([.literal q text], .quoted front)

/-- The tokens that are complete behind some lexemes. -/
def emit : Pending → List Lexeme → List Token
  | _, [] => []
  | p, x :: rest => (step p x).1 ++ emit (step p x).2 rest

/-- What is pending behind some lexemes. -/
def carry : Pending → List Lexeme → Pending
  | p, [] => p
  | p, x :: rest => carry (step p x).2 rest

/-- The last token of a text, `none` if the text ends in a quoted name. -/
def Pending.finish? : Pending → Option (List Token)
  | .nothing => some []
  | .word front => some [.word (String.ofList front)]
  | .quoted _ => none

/-- The tokens of some lexemes. -/
def tokens? (xs : List Lexeme) : Option (List Token) :=
  (carry .nothing xs).finish?.map (emit .nothing xs ++ ·)

/-- The tokens of a text, `none` if it ends inside a literal or a quoted name. -/
def tokenize (text : String) : Option (List Token) := (lex text).bind tokens?

theorem emit_append (p : Pending) (xs ys : List Lexeme) :
    emit p (xs ++ ys) = emit p xs ++ emit (carry p xs) ys := by
  induction xs generalizing p with
  | nil => rfl
  | cons x xs ih => rw [List.cons_append, emit, ih, emit, carry, List.append_assoc]

theorem carry_append (p : Pending) (xs ys : List Lexeme) :
    carry p (xs ++ ys) = carry (carry p xs) ys := by
  induction xs generalizing p with
  | nil => rfl
  | cons x xs ih => rw [List.cons_append, carry, ih, carry]

/-! ## Texts and their tokens -/

/-- The lexemes are these tokens, unless their last word goes on. -/
def Reads (xs : List Lexeme) (ts : List Token) : Prop := tokens? xs = some ts

/-- The lexemes are these tokens, whatever follows. -/
def ReadsOff (xs : List Lexeme) (ts : List Token) : Prop :=
  emit .nothing xs = ts ∧ carry .nothing xs = .nothing

/-- The lexemes go on with no word. -/
def Fresh (xs : List Lexeme) : Prop := ∀ x ∈ xs.head?, x.wordChar? = none

/-- The lexemes are these tokens, whatever stands in front of them and follows. -/
structure Separates (xs : List Lexeme) (ts : List Token) : Prop where
  readsOff : ReadsOff xs ts
  ne_nil : xs ≠ []
  fresh : Fresh xs

instance (xs : List Lexeme) (ts : List Token) : Decidable (Reads xs ts) :=
  inferInstanceAs (Decidable (tokens? xs = some ts))

instance (xs : List Lexeme) (ts : List Token) : Decidable (ReadsOff xs ts) :=
  inferInstanceAs (Decidable (_ ∧ _))

instance (xs : List Lexeme) : Decidable (Fresh xs) :=
  inferInstanceAs (Decidable (∀ x ∈ xs.head?, x.wordChar? = none))

instance (xs : List Lexeme) (ts : List Token) : Decidable (Separates xs ts) :=
  decidable_of_iff (ReadsOff xs ts ∧ xs ≠ [] ∧ Fresh xs)
    ⟨fun ⟨hoff, hne, hfresh⟩ => ⟨hoff, hne, hfresh⟩, fun h => ⟨h.readsOff, h.ne_nil, h.fresh⟩⟩

@[simp] theorem Lexeme.ofString_append (a b : String) :
    Lexeme.ofString (a ++ b) = Lexeme.ofString a ++ Lexeme.ofString b := by
  simp [Lexeme.ofString]

/-- The characters of a text that is spelled out need not be decoded. -/
theorem Lexeme.ofString_ofList (cs : List Char) :
    Lexeme.ofString (String.ofList cs) = cs.map .char := by
  rw [Lexeme.ofString, String.toList_ofList]

theorem Lexeme.spelled_append {text front back : List Char} (h : text = front ++ back) :
    Lexeme.ofString (String.ofList text) =
      Lexeme.ofString (String.ofList front) ++ Lexeme.ofString (String.ofList back) := by
  rw [h, ofString_ofList, ofString_ofList, ofString_ofList, List.map_append]

theorem Reads.spelled {cs : List Char} {ts : List Token} (h : Reads (cs.map .char) ts) :
    Reads (Lexeme.ofString (String.ofList cs)) ts := by
  rwa [Lexeme.ofString_ofList]

theorem ReadsOff.spelled {cs : List Char} {ts : List Token} (h : ReadsOff (cs.map .char) ts) :
    ReadsOff (Lexeme.ofString (String.ofList cs)) ts := by
  rwa [Lexeme.ofString_ofList]

theorem Separates.spelled {cs : List Char} {ts : List Token} (h : Separates (cs.map .char) ts) :
    Separates (Lexeme.ofString (String.ofList cs)) ts := by
  rwa [Lexeme.ofString_ofList]

theorem ReadsOff.reads {xs : List Lexeme} {ts : List Token} (h : ReadsOff xs ts) : Reads xs ts := by
  rw [Reads, tokens?, h.1, h.2]
  simp [Pending.finish?]

/-- What is behind a text that completes its tokens is read by itself. -/
theorem ReadsOff.append {xs ys : List Lexeme} {ts us : List Token} (hx : ReadsOff xs ts)
    (hy : Reads ys us) : Reads (xs ++ ys) (ts ++ us) := by
  obtain ⟨vs, hfinish, rfl⟩ := Option.map_eq_some_iff.mp hy
  rw [Reads, tokens?, emit_append, carry_append, hx.1, hx.2, hfinish]
  simp

theorem ReadsOff.appendOff {xs ys : List Lexeme} {ts us : List Token} (hx : ReadsOff xs ts)
    (hy : ReadsOff ys us) : ReadsOff (xs ++ ys) (ts ++ us) := by
  rw [ReadsOff, emit_append, carry_append, hx.1, hx.2]
  exact ⟨congrArg (ts ++ ·) hy.1, hy.2⟩

/-- Something fresh completes a pending word. -/
theorem step_word {x : Lexeme} (h : x.wordChar? = none) (front : List Char) :
    step (.word front) x = (.word (String.ofList front) :: (start x).1, (start x).2) := by
  rw [step, h]

/-- Something fresh is read as if nothing were in front of it. -/
theorem Reads.before {xs ys : List Lexeme} {ts : List Token} (hx : Reads xs ts) (hne : ys ≠ [])
    (h : Fresh ys) : emit .nothing (xs ++ ys) = ts ++ emit .nothing ys ∧
      carry .nothing (xs ++ ys) = carry .nothing ys := by
  obtain ⟨y, ys, rfl⟩ := List.exists_cons_of_ne_nil hne
  obtain ⟨us, hfinish, rfl⟩ := Option.map_eq_some_iff.mp hx
  have hstart : step .nothing y = start y := rfl
  rw [emit_append, carry_append]
  cases hcarry : carry .nothing xs with
  | nothing =>
    rw [hcarry] at hfinish
    obtain rfl := Option.some.inj hfinish
    simp
  | word front =>
    rw [hcarry] at hfinish
    obtain rfl := Option.some.inj hfinish
    rw [emit, carry, emit, carry, step_word (h y rfl), hstart]
    simp
  | quoted front =>
    rw [hcarry] at hfinish
    cases hfinish

/-- What separates completes the text in front of it. -/
theorem Reads.appendOff {xs ys : List Lexeme} {ts us : List Token} (hx : Reads xs ts)
    (hy : Separates ys us) : ReadsOff (xs ++ ys) (ts ++ us) := by
  obtain ⟨hemit, hcarry⟩ := hx.before hy.ne_nil hy.fresh
  rw [ReadsOff, hemit, hcarry]
  exact ⟨congrArg (ts ++ ·) hy.readsOff.1, hy.readsOff.2⟩

/-- What is behind a text is read by itself if no word goes on. -/
theorem Reads.append {xs ys : List Lexeme} {ts us : List Token} (hx : Reads xs ts)
    (hy : Reads ys us) (h : Fresh ys) : Reads (xs ++ ys) (ts ++ us) := by
  by_cases hne : ys = []
  · subst hne
    obtain rfl : us = [] := (Option.some.inj hy).symm
    simpa using hx
  · obtain ⟨hemit, hcarry⟩ := hx.before hne h
    obtain ⟨vs, hfinish, rfl⟩ := Option.map_eq_some_iff.mp hy
    rw [Reads, tokens?, hemit, hcarry, hfinish]
    simp

/-! ## Words, literals and lists -/

theorem Reads.nil : Reads [] [] := rfl

theorem ReadsOff.literal (q : Quote) (text : String) :
    ReadsOff [.literal q text] [.literal q text] := ⟨rfl, rfl⟩

/-- The characters of a word are gathered. -/
theorem carry_word {cs : List Char} (h : ∀ c ∈ cs, isWordChar c = true) (front : List Char) :
    emit (.word front) (cs.map .char) = [] ∧
      carry (.word front) (cs.map .char) = .word (front ++ cs) := by
  induction cs generalizing front with
  | nil => simp [emit, carry]
  | cons c cs ih =>
    have hstep : step (.word front) (.char c) = ([], .word (front ++ [c])) := by
      rw [step, Lexeme.wordChar?, if_pos (h c (List.mem_cons_self ..))]
    have hrest := ih (fun d hd => h d (List.mem_cons_of_mem _ hd)) (front ++ [c])
    rw [List.map_cons, emit, carry, hstep, hrest.1, hrest.2]
    simp

/-- A text of word characters is one word. -/
theorem Reads.word {text : String} (hne : text ≠ "") (h : ∀ c ∈ text.toList, isWordChar c = true) :
    Reads (Lexeme.ofString text) [.word text] := by
  have hne' : text.toList ≠ [] := by simpa using hne
  obtain ⟨c, cs, hcs⟩ := List.exists_cons_of_ne_nil hne'
  rw [hcs] at h
  have hstart : start (.char c) = ([], .word [c]) := by
    rw [start, if_pos (h c (List.mem_cons_self ..))]
  have hrest := carry_word (fun d hd => h d (List.mem_cons_of_mem _ hd)) [c]
  have htext : String.ofList (c :: cs) = text := by rw [← hcs, String.ofList_toList]
  rw [Reads, tokens?, Lexeme.ofString, hcs, List.map_cons, emit, carry,
    show step .nothing (.char c) = start (.char c) from rfl, hstart, hrest.1, hrest.2]
  simp [Pending.finish?, htext]

/-- A name in backticks is one token, whatever characters it has. -/
theorem ReadsOff.quoted {name : String} (h : '`' ∉ name.toList) :
    ReadsOff (Lexeme.ofString "`" ++ (Lexeme.ofString name ++ Lexeme.ofString "`"))
      [.quoted name] := by
  have hname : ∀ (cs front : List Char), '`' ∉ cs →
      emit (.quoted front) (cs.map .char) = [] ∧
        carry (.quoted front) (cs.map .char) = .quoted (front ++ cs) := by
    intro cs
    induction cs with
    | nil => simp [emit, carry]
    | cons c cs ih =>
      intro front hcs
      rw [List.mem_cons, not_or] at hcs
      have hstep : step (.quoted front) (.char c) = ([], .quoted (front ++ [c])) := by
        rw [step, if_neg (Ne.symm hcs.1)]
      have hrest := ih (front ++ [c]) hcs.2
      rw [List.map_cons, emit, carry, hstep, hrest.1, hrest.2]
      simp
  have hmark : Lexeme.ofString "`" = [.char '`'] := rfl
  have hopen : step .nothing (.char '`') = ([], .quoted []) := rfl
  obtain ⟨hemit, hcarry⟩ := hname name.toList [] h
  rw [hmark, List.singleton_append, ReadsOff, emit, carry, emit_append, carry_append, hopen,
    Lexeme.ofString, hemit, hcarry]
  simp [emit, carry, step]

/-! ## Code and lists of literals -/

/-- The tokens of a text that holds no literals. -/
def codeTokens (text : String) : List Token := (tokens? (Lexeme.ofString text)).getD []

/-- The tokens of a list of literals. -/
def listTokens (q : Quote) (texts : List String) : List Token :=
  [.symbol ','].intercalate (texts.map fun text => [.literal q text])

/-- Without backticks no quoted name is begun. -/
theorem carry_ne_quoted {cs : List Char} (h : '`' ∉ cs) {p : Pending}
    (hp : ∀ front, p ≠ .quoted front) (front : List Char) :
    carry p (cs.map .char) ≠ .quoted front := by
  induction cs generalizing p with
  | nil => exact hp front
  | cons c cs ih =>
    rw [List.mem_cons, not_or] at h
    have hstart : ∀ front, (start (.char c)).2 ≠ .quoted front := by
      intro front
      rw [start]
      split
      · simp
      · rw [if_neg (Ne.symm h.1)]
        split <;> simp
    refine ih h.2 fun front' => ?_
    cases p with
    | nothing => exact hstart front'
    | word pending =>
      rw [step]
      split
      · simp
      · exact hstart front'
    | quoted pending => exact absurd rfl (hp pending)

/-- A text without backticks and literals is read to its end. -/
theorem Reads.code {text : String} (h : '`' ∉ text.toList) :
    Reads (Lexeme.ofString text) (codeTokens text) := by
  have hnothing : ∀ front, Pending.nothing ≠ .quoted front := by simp
  have hcarry := carry_ne_quoted h hnothing
  rw [Reads, codeTokens, Lexeme.ofString, tokens?]
  cases hpending : carry .nothing (text.toList.map .char) with
  | nothing => rfl
  | word front => rfl
  | quoted front => exact absurd hpending (hcarry front)

theorem isWordChar_of_isNamePart {c : Char} (h : isNamePart c = true) : isWordChar c = true := by
  rw [isWordChar, h, Bool.true_or]

namespace Fragment

@[simp] theorem lexemes_nil : lexemes [] = [] := rfl

@[simp] theorem lexemes_append (f g : Fragment) : lexemes (f ++ g) = lexemes f ++ lexemes g :=
  List.flatMap_append

@[simp] theorem lexemes_code (text : String) : lexemes (code text) = Lexeme.ofString text := by
  simp [lexemes, code, Piece.lexemes]

@[simp] theorem lexemes_literal (q : Quote) (text : String) :
    lexemes (literal q text) = [.literal q text] := rfl

/-- Separated parts are read one by one. -/
theorem reads_join {separator : String} {seps : List Token}
    (hsep : Separates (Lexeme.ofString separator) seps) {parts : List Fragment}
    {tokens : List (List Token)} (h : List.Forall₂ (fun f ts => Reads f.lexemes ts) parts tokens) :
    Reads (join separator parts).lexemes (seps.intercalate tokens) := by
  unfold join
  induction h with
  | nil => exact .nil
  | cons hf hrest ih =>
    cases hrest with
    | nil => simpa using hf
    | cons hg hrest =>
      simp only [List.intercalate_cons_cons, lexemes_append, lexemes_code]
      exact (hf.appendOff hsep).append ih

/-- Lists that are written and read element by element. -/
theorem forall₂_map {α : Type} {xs : List α} {write : α → Fragment} {read : α → List Token}
    (h : ∀ x ∈ xs, Reads (write x).lexemes (read x)) :
    List.Forall₂ (fun f ts => Reads f.lexemes ts) (xs.map write) (xs.map read) := by
  rw [List.forall₂_map_left_iff, List.forall₂_map_right_iff, List.forall₂_same]
  exact h

/-- A list of literals between two pieces of code. -/
theorem reads_enclosed {front back : String} {ts us : List Token}
    (hfront : ReadsOff (Lexeme.ofString front) ts) (q : Quote) (texts : List String)
    (hback : Separates (Lexeme.ofString back) us) :
    ReadsOff (code front ++ literals q texts ++ code back).lexemes
      (ts ++ listTokens q texts ++ us) := by
  have hlist : Reads (literals q texts).lexemes (listTokens q texts) :=
    reads_join (.spelled (by decide))
      (forall₂_map fun text _ => (ReadsOff.literal q text).reads)
  simp only [lexemes_append, lexemes_code, List.append_assoc]
  exact hfront.appendOff (hlist.appendOff hback)

/-- A part that may be missing. -/
theorem reads_option {α : Type} {x : Option α} {write : α → Fragment} {read : α → List Token}
    (h : ∀ a ∈ x, Reads (write a).lexemes (read a) ∧ Fresh (write a).lexemes) :
    Reads ((x.map write).getD []).lexemes ((x.map read).getD []) ∧
      Fresh ((x.map write).getD []).lexemes := by
  cases x with
  | none => exact ⟨.nil, by rintro x ⟨⟩⟩
  | some a => exact h a rfl

/-- What is written as nothing has no lexemes. -/
theorem lexemes_eq_nil_of_isEmpty {f : Fragment} (h : f.render.isEmpty = true) :
    f.lexemes = [] := by
  rwa [isEmpty_render, ← map_mark_lexemes, List.isEmpty_map, List.isEmpty_iff] at h

end Fragment

end PlaceSearch.Sql
