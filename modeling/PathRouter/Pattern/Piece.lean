/-!
The pieces of a route pattern. A pattern is literal text with captures in it; a capture is a colon
and a name, which is the longest run of word characters after the colon. A colon that no word
character follows is literal.
-/

namespace PathRouter.Pattern

/-- Whether `c` may stand in the name of a capture: ASCII letters, digits and the underscore. -/
def isNameChar (c : Char) : Bool := c.isAlphanum || c = '_'

/-- A piece of a pattern. -/
inductive Piece where
  /-- Text that stands for itself in the expression. -/
  | literal (text : List Char)
  /-- A capture. -/
  | capture (name : List Char)
deriving DecidableEq, Repr

namespace Piece

/-- The text of a piece. -/
def source : Piece → List Char
  | literal text => text
  | capture name => ':' :: name

/-- Puts a literal character in front of some pieces, into their first literal if they start with
one. -/
def consLiteral (c : Char) : List Piece → List Piece
  | literal text :: rest => literal (c :: text) :: rest
  | pieces => literal [c] :: pieces

/-- Cuts a pattern into pieces, with no two literals in a row and none empty. -/
def scan (cs : List Char) : List Piece :=
  match cs with
  | [] => []
  | c :: rest =>
    if c = ':' ∧ rest.takeWhile isNameChar ≠ [] then
      have : (rest.dropWhile isNameChar).length ≤ rest.length :=
        (List.dropWhile_sublist _).length_le
      capture (rest.takeWhile isNameChar) :: scan (rest.dropWhile isNameChar)
    else consLiteral c (scan rest)
termination_by cs.length
decreasing_by all_goals simp only [List.length_cons]; omega

/-- The names of the captures, in order. -/
def names : List Piece → List (List Char)
  | [] => []
  | literal _ :: rest => names rest
  | capture name :: rest => name :: names rest

end Piece

end PathRouter.Pattern
