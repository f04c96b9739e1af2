-- SUMMARY: Pieces of statements: code written as it is and literals that hold user text.
import PlaceSearch.Sql.Literal

/-!
# Statement fragments

A fragment is a sequence of code and literals. Keeping the two apart until the
text is written makes visible which parts of a statement a user can choose.
-/

namespace PlaceSearch.Sql

inductive Piece where
  | code (text : String)
  | literal (quote : Quote) (text : String)
deriving DecidableEq, Repr

/-- Part of a statement. -/
abbrev Fragment : Type := List Piece

/-- The written form of a piece. -/
def Piece.render : Piece → String
  | .code text => text
  | .literal q text => q.encode text

namespace Fragment

/-- Code by itself. -/
def code (text : String) : Fragment := [.code text]

/-- A literal by itself. -/
def literal (q : Quote) (text : String) : Fragment := [.literal q text]

/-- The written form. -/
def render : Fragment → String
  | [] => ""
  | p :: rest => p.render ++ render rest

/-- Fragments with code between neighbors. -/
def join (separator : String) (parts : List Fragment) : Fragment :=
  List.intercalate (code separator) parts

/-- Literals separated by commas. -/
def literals (q : Quote) (texts : List String) : Fragment := join ", " (texts.map (literal q))

/-- Conditions joined by `AND` behind `WHERE`, or nothing if there are none. -/
def whereAll (conditions : List Fragment) : Fragment :=
  if conditions.isEmpty then [] else code "WHERE " ++ join " AND " conditions

/-- The parts that are not empty, separated by one space. -/
def spaced (parts : List Fragment) : Fragment :=
  join " " (parts.filter fun p => !p.render.isEmpty)

@[simp] theorem render_nil : render [] = "" := rfl

@[simp] theorem render_cons (p : Piece) (rest : Fragment) :
    render (p :: rest) = p.render ++ render rest := rfl

theorem render_append (a b : Fragment) : render (a ++ b) = render a ++ render b := by
  induction a with
  | nil => simp
  | cons p a ih =>
    show p.render ++ render (a ++ b) = p.render ++ render a ++ render b
    rw [ih, String.append_assoc]

end Fragment

end PlaceSearch.Sql
