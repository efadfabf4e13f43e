import PathRouter.Params
import PathRouter.Pattern.Error
import PathRouter.Pattern.Piece
import PathRouter.Regex.Basic

/-!
Route patterns. The expression of a pattern is its literal text, word for word, with a named group
for each capture; it is anchored at both ends and lets one slash more stand at the end. Groups are
named by their position among the captures, so that groups within literal text and conditions do
not come between a capture and its value.
-/

namespace PathRouter

/-- Expressions that replace the default one, by the name of the capture. -/
abbrev Conditions := Params

/-- A pattern that is ready to be matched. -/
structure Pattern where
  /-- The text of the pattern. -/
  source : String
  /-- The names of its captures, in order. -/
  names : List String
  /-- Its expression. -/
  regex : Regex

namespace Pattern

/-- What a capture matches unless a condition says otherwise. The percent sign is among the
characters, so that encoded bytes match and can be decoded afterwards. -/
def defaultCapture : String := "[a-zA-Z0-9_\\+\\-%]+"

/-- The name of the group of the capture number `index`, counted from zero. -/
def groupName (index : Nat) : String := "__p" ++ String.ofList (Nat.toDigits 10 index)

/-- The expression that the capture `name` matches. -/
def inner (conditions : Conditions) (name : List Char) : String :=
  (conditions.get? (String.ofList name)).getD defaultCapture

/-- The text of the group of the capture number `index`, which matches `inner`. -/
def groupText (index : Nat) (inner : String) : List Char :=
  "(?P<".toList ++ (groupName index).toList ++ ['>'] ++ inner.toList ++ [')']

/-- The expression of some pieces, the first capture among them being number `index`. -/
def body (conditions : Conditions) (index : Nat) : List Piece → List Char
  | [] => []
  | .literal text :: rest => text ++ body conditions index rest
  | .capture name :: rest =>
    groupText index (inner conditions name) ++ body conditions (index + 1) rest

/-- The text of the expression of a pattern. -/
def assemble (source : String) (conditions : Conditions) : String :=
  String.ofList ('^' :: body conditions 0 (Piece.scan source.toList) ++ "/?$".toList)

/-- The names of the captures of a pattern, in order. -/
def captureNames (source : String) : List String :=
  (Piece.names (Piece.scan source.toList)).map String.ofList

/-- Whether there is a condition for `name` that cannot be used by itself. -/
def isFaulty (conditions : Conditions) (name : String) : Bool :=
  (conditions.get? name).any fun condition => !(Regex.compile condition).isOk

/-- The first of the captures whose condition cannot be used by itself. -/
def faultyParameter? (names : List String) (conditions : Conditions) : Option String :=
  names.find? (isFaulty conditions)

/-- Makes a pattern ready to be matched. Only the expression as a whole has to be sound, so a
condition may be a fragment that is balanced by the group around it. -/
def compile (source : String) (conditions : Conditions) : Except ExpressionError Pattern :=
  match Regex.compile (assemble source conditions) with
  | .ok regex => .ok ⟨source, captureNames source, regex⟩
  | .error cause =>
    .error ⟨source, faultyParameter? (captureNames source) conditions, cause⟩

/-- The text of the expression. -/
def expression (p : Pattern) : String := p.regex.source

/-- Whether two patterns have the same expression. -/
def collides (p q : Pattern) : Bool := p.expression == q.expression

/-- The pattern as text. -/
def render (p : Pattern) : String := p.source

/-- Whether a path matches. -/
def isMatch (p : Pattern) (path : String) : Bool := p.regex.isMatch path.toList

/-- The part of the path that the capture number `index` stands for. Its group may have vanished
from the expression, and then the whole match counts; a group that took no part gives no text. -/
def captured (p : Pattern) (path : List Char) (m : Regex.Match) (index : Nat) : List Char :=
  if p.regex.hasGroup (groupName index) then (m.group? path (groupName index)).getD []
  else m.whole path

/-- The captures of a path that matches, in the order of the pattern and as they stand there. -/
def captures (p : Pattern) (path : String) : Option (List (String × String)) :=
  (p.regex.find? path.toList).map fun m =>
    p.names.mapIdx fun index name => (name, String.ofList (p.captured path.toList m index))

end Pattern

end PathRouter
