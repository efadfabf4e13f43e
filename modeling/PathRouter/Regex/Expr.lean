import PathRouter.Regex.CharSet

/-!
Regular expressions as syntax trees, and the measures of them that limit what is accepted.
-/

namespace PathRouter.Regex

/-- Where a position stands with respect to words. -/
inductive WordEdge where
  /-- Between a word character and none, on either side. -/
  | boundary
  /-- Not at a boundary. -/
  | inside
  /-- No word character before, one after. -/
  | start
  /-- A word character before, none after. -/
  | stop
  /-- No word character before. -/
  | startHalf
  /-- No word character after. -/
  | stopHalf
deriving DecidableEq, Repr

/-- A condition on a position of the text, which takes up no characters. -/
inductive Look where
  | textStart
  | textEnd
  | lineStart
  | lineEnd
  | crlfLineStart
  | crlfLineEnd
  | word (unicode : Bool) (edge : WordEdge)
deriving DecidableEq, Repr

/-- The characters on either side of a position; `none` at an end of the text. -/
structure Around where
  before : Option Char
  after : Option Char
deriving DecidableEq, Repr

namespace WordEdge

/-- Whether the edge is where word characters stand as given. -/
def holds (edge : WordEdge) (before after : Bool) : Bool :=
  match edge with
  | boundary => before != after
  | inside => before == after
  | start => !before && after
  | stop => before && !after
  | startHalf => !before
  | stopHalf => !after

end WordEdge

namespace Look

/-- Whether `c` is a word character. -/
def isWord (unicode : Bool) (c : Option Char) : Bool :=
  c.any fun c => if unicode then Unicode.isWord c else CharSet.asciiWord.contains c

/-- Whether the condition holds between the given characters. -/
def holds (l : Look) (a : Around) : Bool :=
  match l with
  | textStart => a.before.isNone
  | textEnd => a.after.isNone
  | lineStart => a.before.all (· = '\n')
  | lineEnd => a.after.all (· = '\n')
  | crlfLineStart =>
    a.before.all (· = '\n') || (a.before = some '\r' && a.after ≠ some '\n')
  | crlfLineEnd =>
    a.after.all (· = '\r') || (a.after = some '\n' && a.before ≠ some '\r')
  | word unicode edge => edge.holds (isWord unicode a.before) (isWord unicode a.after)

end Look

/-- A regular expression. -/
inductive Expr where
  /-- Takes up nothing. -/
  | empty
  /-- One character of a set. -/
  | chars (s : CharSet)
  /-- A condition on the position. -/
  | look (l : Look)
  /-- `a`, then `b`. -/
  | cat (a b : Expr)
  /-- `a`, or else `b`. -/
  | alt (a b : Expr)
  /-- `e` repeated `min` times and then up to `extra` times more, without end if that is `none`:
  as often as possible if `greedy`, else as rarely. -/
  | rep (min : Nat) (extra : Option Nat) (greedy : Bool) (e : Expr)
  /-- A group that remembers what `e` matched, by a name if it has one. -/
  | group (name : Option String) (e : Expr)
deriving DecidableEq, Repr

namespace Expr

/-- Whether the expression never takes up a character. -/
def isZeroWidth : Expr → Bool
  | empty => true
  | chars _ => false
  | look _ => true
  | cat a b => a.isZeroWidth && b.isZeroWidth
  | alt a b => a.isZeroWidth && b.isZeroWidth
  | rep _ _ _ e => e.isZeroWidth
  | group _ e => e.isZeroWidth

/-- Whether the expression may match without taking up a character. -/
def isNullable : Expr → Bool
  | empty => true
  | chars _ => false
  | look _ => true
  | cat a b => a.isNullable && b.isNullable
  | alt a b => a.isNullable || b.isNullable
  | rep min _ _ e => min = 0 || e.isNullable
  | group _ e => e.isNullable

/-- `e` repeated at least `min` times, and at most `max` times if that is given. What takes up no
character need not be repeated more than once; no repetition at all leaves nothing of `e`, and just
one is `e` itself. -/
def repeated (min : Nat) (max : Option Nat) (greedy : Bool) (e : Expr) : Expr :=
  let min' := if e.isZeroWidth then Nat.min min 1 else min
  let max' := if e.isZeroWidth then some (Nat.min (max.getD 1) 1) else max
  if max' = some 0 then empty
  else if min' = 1 ∧ max' = some 1 then e
  else rep min' (max'.map (· - min')) greedy e

/-- The expressions one after the other. -/
def cats : List Expr → Expr
  | [] => empty
  | [e] => e
  | e :: rest => cat e (cats rest)

/-- The expressions as alternatives, the first preferred. -/
def alts : List Expr → Expr
  | [] => empty
  | [e] => e
  | e :: rest => alt e (alts rest)

/-- The groups in the order of their opening parentheses, each by its name if it has one. -/
def groups : Expr → List (Option String)
  | empty | chars _ | look _ => []
  | cat a b | alt a b => a.groups ++ b.groups
  | rep _ _ _ e => e.groups
  | group name e => name :: e.groups

/-- How many steps the expression has once its repetitions are written out. Every class is one step,
whatever its characters are, although a class of many ranges takes more room than one of few. -/
def weight : Expr → Nat
  | empty | chars _ | look _ => 1
  | cat a b => a.weight + b.weight
  | alt a b => a.weight + b.weight + 1
  | rep min none _ e => Nat.max min 1 * e.weight + 1
  | rep min (some extra) _ e => (min + extra) * e.weight + extra
  | group _ e => e.weight + 2

end Expr

end PathRouter.Regex
