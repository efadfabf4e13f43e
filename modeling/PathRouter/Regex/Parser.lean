import PathRouter.Regex.Token

/-!
Parsing. The parser keeps a stack of the groups that are open, each with its finished alternatives
and the pieces of the one it is in; every token changes the top of the stack, so that what stands
inside a group is read in the same way whatever stands around it.
-/

namespace PathRouter.Regex

/-- An item of a sequence: a piece that can be repeated, or a change of flags, which cannot. -/
inductive Item where
  | piece (p : Piece)
  | flags
deriving DecidableEq, Repr

namespace Item

/-- What the item matches. -/
def expr : Item → Expr
  | piece p => p.expr
  | flags => .empty

/-- How deeply the item is nested. -/
def depth : Item → Nat
  | piece p => p.depth
  | flags => 0

end Item

/-- A piece made of parts, one level deeper than they are if there are several. -/
def Piece.join (combine : List Expr → Expr) (parts : List (Expr × Nat)) : Piece where
  expr := combine (parts.map (·.1))
  depth :=
    match parts with
    | [] => 0
    | [p] => p.2
    | parts => (parts.map (·.2)).foldl Nat.max 0 + 1

/-- What has been read of an open group, or of the whole expression. -/
structure Level where
  /-- The flags in force. -/
  flags : Flags
  /-- The finished alternatives, latest first. -/
  branches : List Piece
  /-- The items of the alternative being read, latest first. -/
  items : List Item
deriving DecidableEq, Repr

namespace Level

/-- A level of which nothing has been read. -/
def start (f : Flags) : Level := ⟨f, [], []⟩

/-- The alternative being read. -/
def branch (l : Level) : Piece :=
  .join .cats (l.items.reverse.map fun i => (i.expr, i.depth))

/-- All that has been read. -/
def contents (l : Level) : Piece :=
  .join .alts ((l.branch :: l.branches).reverse.map fun p => (p.expr, p.depth))

/-- Adds a piece. -/
def add (l : Level) (p : Piece) : Level := { l with items := .piece p :: l.items }

/-- Ends the alternative being read. -/
def divide (l : Level) : Level := { l with branches := l.branch :: l.branches, items := [] }

/-- Changes flags from here on. -/
def changeFlags (l : Level) (changes : List (Flag × Bool)) : Level :=
  { l with flags := l.flags.change changes, items := .flags :: l.items }

/-- Repeats the last item. -/
def quantify (l : Level) (q : Quantifier) : Except SyntaxError Level :=
  match l.items with
  | .piece p :: items =>
    let greedy := q.turned == l.flags.swapGreed
    .ok { l with items := .piece ⟨p.expr.repeated q.min q.max greedy, p.depth + 1⟩ :: items }
  | _ => .error .nothingToRepeat

end Level

/-- What the parser knows between two tokens. -/
structure State where
  level : Level
  /-- The groups around it, the innermost first, each with what stands before it. -/
  outer : List (GroupKind × Level)
  /-- The names of groups, latest first. -/
  names : List String

namespace State

/-- The flags inside a group of the given kind. -/
def innerFlags (f : Flags) : GroupKind → Flags
  | .capture _ => f
  | .plain changes => f.change changes

/-- A group of the given kind around a piece. -/
def wrap (kind : GroupKind) (p : Piece) : Piece where
  expr :=
    match kind with
    | .capture name => .group name p.expr
    | .plain _ => p.expr
  depth := p.depth + 1

/-- The name that a kind of group brings in. -/
def newNames : GroupKind → List String
  | .capture (some name) => [name]
  | _ => []

/-- Takes in one token. -/
def apply (s : State) (t : Token) : Except SyntaxError State :=
  match t with
  | .openGroup kind =>
    .ok ⟨.start (innerFlags s.level.flags kind), (kind, s.level) :: s.outer,
      newNames kind ++ s.names⟩
  | .closeGroup =>
    match s.outer with
    | [] => .error .unopenedGroup
    | (kind, l) :: outer => .ok { s with level := l.add (wrap kind s.level.contents), outer }
  | .bar => .ok { s with level := s.level.divide }
  | .setFlags changes => .ok { s with level := s.level.changeFlags changes }
  | .quantifier q => do return { s with level := ← s.level.quantify q }
  | .atom p => .ok { s with level := s.level.add p }
  | .blank => .ok s

/-- How deeply an expression may be nested. -/
def depthLimit : Nat := 250

/-- The expression, once its text has ended. -/
def finish (s : State) : Except SyntaxError Expr :=
  match s.outer with
  | _ :: _ => .error .unclosedGroup
  | [] =>
    let whole := s.level.contents
    if depthLimit < whole.depth then .error .tooDeep
    else if s.names.Nodup then .ok whole.expr
    else .error .duplicateGroupName

end State

namespace Expr

/-- Reads tokens to the end of the text, from the state `s` on. -/
def parseFrom (s : State) : Reader State :=
  Reader.loop (fun s c => do
    match s.apply (← Token.read s.level.flags c) with
    | .ok s => return .inl s
    | .error e => throw e) .ok s

/-- The expression that a text spells. -/
def parse (text : List Char) : Except SyntaxError Expr :=
  match parseFrom ⟨.start {}, [], []⟩ text with
  | .error e => .error e
  | .ok r => r.value.finish

end Expr

end PathRouter.Regex
