import PathRouter.Regex.Parser
import PathRouter.Regex.Search

/-!
Regular expressions that are ready for use: the text of an expression together with what it spells.
-/

namespace PathRouter

/-- A regular expression that is ready for use. -/
structure Regex where
  /-- The text of the expression. -/
  source : String
  /-- What it spells. -/
  expr : Regex.Expr
deriving DecidableEq, Repr

namespace Regex

/-- How many steps an expression may have with its repetitions written out. This count stands in for
a limit in bytes: it is what 10 MiB come to at 32 bytes for each step. A class counts as one step
whatever room its ranges take, so that an expression that repeats a large class, such as
`\w{1000}`, is taken although it goes beyond the bytes. -/
def weightLimit : Nat := 327680

/-- Makes an expression ready for use. -/
def compile (source : String) : Except CompileError Regex :=
  match Expr.parse source.toList with
  | .error e => .error (.malformed e)
  | .ok expr => if weightLimit < expr.weight then .error .tooBig else .ok ⟨source, expr⟩

/-- The groups in the order of their opening parentheses, each by its name if it has one. -/
def groups (r : Regex) : List (Option String) := r.expr.groups

/-- Whether there is a group of the given name. -/
def hasGroup (r : Regex) (name : String) : Bool := r.groups.contains (some name)

/-- The leftmost match in a text. -/
def find? (r : Regex) (text : List Char) : Option Match := r.expr.search text

/-- Whether there is a match anywhere in a text. -/
def isMatch (r : Regex) (text : List Char) : Bool := (r.find? text).isSome

end Regex

namespace Regex.Match

/-- The part of the text from the position `start` to the position `stop`. -/
def slice (text : List Char) (start stop : Nat) : List Char :=
  (text.drop start).take (stop - start)

/-- What the whole expression matched. -/
def whole (m : Match) (text : List Char) : List Char := slice text m.start m.stop

/-- What the group `name` matched, the last time it was passed. -/
def group? (m : Match) (text : List Char) (name : String) : Option (List Char) := do
  let stop ← m.marks.findSome? fun
    | .closed n pos => if n = name then some pos else none
    | .opened _ _ => none
  let start ← m.marks.findSome? fun
    | .opened n pos => if n = name then some pos else none
    | .closed _ _ => none
  return slice text start stop

end Regex.Match

end PathRouter
