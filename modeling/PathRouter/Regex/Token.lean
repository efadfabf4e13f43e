import PathRouter.Regex.Bracket

/-!
The tokens of an expression. Reading one needs the flags in force there but nothing else of what
came before; what a token does to the expression is for the parser to say.
-/

namespace PathRouter.Regex

/-- A piece of an expression, and how deeply its writing is nested. -/
structure Piece where
  expr : Expr
  depth : Nat
deriving DecidableEq, Repr

/-- How often a quantifier repeats, and whether a `?` after it turns its preference round. -/
structure Quantifier where
  min : Nat
  max : Option Nat
  turned : Bool
deriving DecidableEq, Repr

/-- What kind of group a parenthesis opens. -/
inductive GroupKind where
  /-- A group that remembers its match, by a name if it has one. -/
  | capture (name : Option String)
  /-- A group that does not, and changes flags inside. -/
  | plain (changes : List (Flag × Bool))
deriving DecidableEq, Repr

/-- A token. -/
inductive Token where
  | openGroup (kind : GroupKind)
  | closeGroup
  | bar
  /-- Flags that change from here to the end of the group. -/
  | setFlags (changes : List (Flag × Bool))
  | quantifier (q : Quantifier)
  /-- Something that matches by itself. -/
  | atom (p : Piece)
  /-- White space or a comment, where they count for nothing. -/
  | blank
deriving DecidableEq, Repr

namespace Token

/-! ### Groups -/

/-- Whether a group's name may hold `c`, in the first place or a later one. -/
def isNameChar (first : Bool) (c : Char) : Bool :=
  c = '_' || Unicode.isAlphabetic c ||
    (!first && (c = '.' || c = '[' || c = ']' || Unicode.isNumber c))

/-- Takes the name of a group with the `>` that ends it. -/
def groupName : Reader String := do
  let name ← Reader.loop (fun name c => do
    if c = '>' then return .inr name.reverse
    if isNameChar name.isEmpty c then return .inl (c :: name) else throw .invalidGroupName)
    (fun _ => .error .invalidGroupName) []
  if name.isEmpty then throw .invalidGroupName
  return String.ofList name

/-- The changes of flags read so far. -/
structure FlagState where
  /-- The changes, latest first. -/
  changes : List (Flag × Bool)
  /-- Whether a `-` has been read. -/
  negated : Bool
  /-- Whether that `-` was the last thing read. -/
  dangling : Bool

/-- Takes changes of flags with the sign that ends them, and tells whether that closes the group.
Each flag may occur once, and so may the `-` after which flags are cleared. -/
def flagChanges : Reader (List (Flag × Bool) × Bool) :=
  Reader.loop (fun (s : FlagState) c => do
    if c = ':' || c = ')' then
      if s.dangling then throw .invalidFlags
      return .inr (s.changes.reverse, c = ')')
    if c = '-' then
      if s.negated then throw .invalidFlags
      return .inl { s with negated := true, dangling := true }
    let flag ← Reader.ofOption .invalidFlags (Flag.ofLetter? c)
    if (s.changes.map (·.1)).contains flag then throw .invalidFlags
    return .inl { s with changes := (flag, !s.negated) :: s.changes, dangling := false })
    (fun _ => .error .invalidFlags) ⟨[], false, false⟩

/-- The texts that open a group with a name. -/
def namedGroup : List (List Char × Unit) := [("?P<".toList, ()), ("?<".toList, ())]

/-- The texts that would look ahead or behind. -/
def lookaround : List (List Char × Unit) := [
  ("?=".toList, ()), ("?!".toList, ()), ("?<=".toList, ()), ("?<!".toList, ())]

/-- Takes the start of a group after its parenthesis. -/
def openedGroup (f : Flags) : Reader Token := do
  Reader.blank f.verbose
  if (← Reader.oneOf lookaround).isSome then throw .unsupportedLookaround
  if (← Reader.oneOf namedGroup).isSome then
    return .openGroup (.capture (some (← groupName)))
  if ← Reader.accept '?' then
    match ← flagChanges with
    | ([], true) => throw .nothingToRepeat
    | (changes, true) => return .setFlags changes
    | (changes, false) => return .openGroup (.plain changes)
  return .openGroup (.capture none)

/-! ### Quantifiers -/

/-- Takes a `?` if it comes next, which turns the preference of the quantifier before it round. -/
def turnable (min : Nat) (max : Option Nat) : Reader Token := do
  return .quantifier ⟨min, max, ← Reader.accept '?'⟩

/-- Takes the digits of a count. Where white space counts for nothing it may stand between them. -/
def countDigits (verbose : Bool) (cs : List Char) : Reading (List Char) cs :=
  match cs with
  | c :: rest =>
    if c.isDigit then
      have h := skipBlank_suffix verbose rest
      let more := countDigits verbose (skipBlank verbose rest)
      ⟨c :: more.value, more.rest, (more.suffix.trans h).trans (List.suffix_cons c rest)⟩
    else ⟨[], c :: rest, List.suffix_rfl⟩
  | [] => ⟨[], [], List.suffix_rfl⟩
termination_by cs.length
decreasing_by exact Nat.lt_succ_of_le h.length_le

/-- Takes a number between the braces of a count; there may be white space about it. -/
def count (verbose : Bool) : Reader Nat := do
  let _ ← Reader.takeWhile Unicode.isSpace
  let digits ← fun cs => .ok (countDigits verbose cs)
  let _ ← Reader.takeWhile Unicode.isSpace
  if digits.isEmpty then throw .invalidCount
  let n := digits.foldl (fun n c => n * 10 + (c.toNat - '0'.toNat)) 0
  if n < UInt32.size then return n else throw .invalidCount

/-- Takes the brace that ends a count. -/
def countEnd : Reader Unit := do
  unless ← Reader.accept '\x7d' do throw .invalidCount

/-- Takes the rest of a count whose least number is `min`, and gives its greatest: `min` itself if
there is no comma, and none if nothing follows the comma. -/
def countMax (verbose : Bool) (min : Nat) : Reader (Option Nat) := do
  unless ← Reader.accept ',' do
    countEnd
    return some min
  Reader.blank verbose
  if ← Reader.accept '\x7d' then return none
  let max ← count verbose
  countEnd
  return some max

/-- Takes a counted quantifier after its opening brace. -/
def countedQuantifier (f : Flags) : Reader Token := do
  Reader.blank f.verbose
  let min ← count f.verbose
  let max ← countMax f.verbose min
  Reader.blank f.verbose
  if max.any (· < min) then throw .invalidCount
  turnable min max

/-! ### Atoms -/

/-- An atom that is not nested. -/
def flat (e : Expr) : Token := .atom ⟨e, 0⟩

/-- The character `c`, in either case where case is ignored. -/
def literal (f : Flags) (c : Char) : Token := flat (.chars (Bracket.foldCase f (.single c)))

/-- What `.` matches. -/
def dotSet (f : Flags) : CharSet :=
  if f.dotMatchesNewline then .compl .empty
  else if f.crlf then .compl (.ofChars ['\n', '\r'])
  else .compl (.single '\n')

/-- What `^` stands for. -/
def startLook (f : Flags) : Look :=
  if f.multiLine then (if f.crlf then .crlfLineStart else .lineStart) else .textStart

/-- What `$` stands for. -/
def endLook (f : Flags) : Look :=
  if f.multiLine then (if f.crlf then .crlfLineEnd else .lineEnd) else .textEnd

/-- What an escape outside a class stands for. -/
def ofEscape (f : Flags) : Escape → Token
  | .literal c => literal f c
  | .chars s => flat (.chars s)
  | .look l => flat (.look l)

/-- Takes a token whose first character `c` has been taken. -/
def read (f : Flags) (c : Char) : Reader Token :=
  if f.verbose && (Unicode.isSpace c || c = '#') then do
    if c = '#' then let _ ← Reader.takeWhile (· ≠ '\n')
    return .blank
  else
    match c with
    | '(' => openedGroup f
    | ')' => return .closeGroup
    | '|' => return .bar
    | '?' => turnable 0 (some 1)
    | '*' => turnable 0 none
    | '+' => turnable 1 none
    | '\x7b' => countedQuantifier f
    | '[' => do
      let p ← Bracket.read f
      return .atom ⟨.chars p.set, p.depth⟩
    | '.' => if f.unicode then return flat (.chars (dotSet f)) else throw .beyondAscii
    | '^' => return flat (.look (startLook f))
    | '$' => return flat (.look (endLook f))
    | '\\' => do return ofEscape f (← Escape.read f)
    | c => return literal f c

end Token

end PathRouter.Regex
