import PathRouter.Regex.Escape

/-!
Bracketed classes such as `[a-z&&[^aeiou]]`. A class is read with a stack of the brackets that are
open; between brackets there are items, whose union counts, and binary operators, which all bind
equally and to the left.
-/

namespace PathRouter.Regex

namespace Bracket

/-- A set that stands in brackets, and how deeply its writing is nested. -/
structure Part where
  set : CharSet
  depth : Nat
deriving DecidableEq, Repr

/-- A binary operator on classes. -/
inductive Operator where
  | inter
  | diff
  | symmDiff
deriving DecidableEq, Repr

/-- Applies an operator. -/
def Operator.apply : Operator → CharSet → CharSet → CharSet
  | inter => .inter
  | diff => .diff
  | symmDiff => .symmDiff

/-- The operators by their signs. -/
def operators : List (List Char × Operator) := [
  (['&', '&'], .inter), (['-', '-'], .diff), (['~', '~'], .symmDiff)]

/-- What has been read of an open bracket. -/
structure Level where
  /-- Whether a `^` stands at its start. -/
  negated : Bool
  /-- The left operand of the operator before the items, with that operator. -/
  operand : Option (Part × Operator)
  /-- The items since, latest first. -/
  items : List Part
deriving DecidableEq, Repr

/-- The union of the items, which is one level deeper if there are several. -/
def joinItems (items : List Part) : Part where
  set := .unions (items.reverse.map (·.set))
  depth :=
    match items with
    | [] => 0
    | [p] => p.depth
    | items => (items.map (·.depth)).foldl Nat.max 0 + 1

/-- The set closed under case where case is ignored. -/
def foldCase (f : Flags) (s : CharSet) : CharSet :=
  if f.ignoreCase then .foldCase f.unicode s else s

namespace Level

/-- What the bracket holds so far. -/
def contents (f : Flags) (l : Level) : Part :=
  let right := joinItems l.items
  match l.operand with
  | none => right
  | some (left, op) =>
    ⟨op.apply (foldCase f left.set) (foldCase f right.set), Nat.max left.depth right.depth + 1⟩

/-- Adds an item. -/
def add (l : Level) (p : Part) : Level := { l with items := p :: l.items }

/-- Makes what the bracket holds so far the left operand of `op`. -/
def operate (f : Flags) (l : Level) (op : Operator) : Level :=
  { l with operand := some (l.contents f, op), items := [] }

/-- Closes the bracket. -/
def close (f : Flags) (l : Level) : Reader Part := do
  let p := l.contents f
  return ⟨← Escape.foldNegate f l.negated p.set, p.depth + 1⟩

end Level

/-- Takes `-` as often as it comes next and counts it. -/
def leadingHyphens (verbose : Bool) (cs : List Char) : Reading Nat cs :=
  match cs with
  | '-' :: rest =>
    have h := skipBlank_suffix verbose rest
    let more := leadingHyphens verbose (skipBlank verbose rest)
    ⟨more.value + 1, more.rest, (more.suffix.trans h).trans (List.suffix_cons '-' rest)⟩
  | cs => ⟨0, cs, List.suffix_rfl⟩
termination_by cs.length
decreasing_by exact Nat.lt_succ_of_le h.length_le

/-- Takes the start of a class after its opening bracket: the negation sign, then any number of
hyphens that stand for themselves, or else a closing bracket that does. -/
def openLevel (f : Flags) : Reader Level := do
  Reader.blank f.verbose
  let negated ← Reader.accept '^'
  if negated then Reader.blank f.verbose
  let hyphens ← fun cs => .ok (leadingHyphens f.verbose cs)
  let level : Level := ⟨negated, none, List.replicate hyphens ⟨.single '-', 0⟩⟩
  if hyphens = 0 then
    if ← Reader.accept ']' then return level.add ⟨.single ']', 0⟩
  return level

/-- The first character after a hyphen, by which the hyphen is told from the sign of a range. Where
white space counts for nothing it is skipped, and so are the sign of one comment and the white
space behind that sign. -/
def afterHyphen (verbose : Bool) (cs : List Char) : Option Char :=
  if verbose then
    match cs.dropWhile Unicode.isSpace with
    | '#' :: rest => (rest.dropWhile Unicode.isSpace).head? <|> cs.head?
    | rest => rest.head? <|> cs.head?
  else cs.head?

/-- Takes a `-` if it comes next as the sign of a range: not before `]`, where it stands for
itself, and not before another `-`. -/
def rangeSign (verbose : Bool) : Reader Bool
  | '-' :: rest =>
    match afterHyphen verbose rest with
    | some ']' | some '-' => .ok ⟨false, '-' :: rest, List.suffix_rfl⟩
    | _ => .ok ⟨true, rest, List.suffix_cons '-' rest⟩
  | cs => .ok ⟨false, cs, List.suffix_rfl⟩

/-- Takes one character or escape, whose first character `c` has been taken. -/
def item (f : Flags) (c : Char) : Reader Escape :=
  if c = '\\' then Escape.read f else Reader.give (.literal c)

/-- The character that an item stands for. Without Unicode it is one of ASCII. -/
def literal (f : Flags) : Escape → Reader Char
  | .literal c => if f.unicode || c.toNat < 0x80 then Reader.give c else Reader.fault .beyondAscii
  | .chars _ | .look _ => Reader.fault .invalidClassItem

/-- The set that an item stands for. -/
def itemSet (f : Flags) : Escape → Reader CharSet
  | .chars s => Reader.give s
  | e => do return .single (← literal f e)

/-- Takes an item or a range, whose first character `c` has been taken. -/
def itemOrRange (f : Flags) (c : Char) : Reader Part := do
  let first ← item f c
  Reader.blank f.verbose
  if ← rangeSign f.verbose then
    Reader.blank f.verbose
    let last ← item f (← Reader.next .unclosedClass)
    let first ← literal f first
    let last ← literal f last
    if first ≤ last then return ⟨.range first last, 0⟩ else throw .invalidRange
  else
    return ⟨← itemSet f first, 0⟩

/-- The texts of the named ASCII classes after their opening bracket, each with its set and whether
it is negated. -/
def asciiClasses : List (List Char × CharSet × Bool) :=
  CharSet.namedAscii.flatMap fun (name, s) => [
    (":".toList ++ name.toList ++ ":]".toList, s, false),
    (":^".toList ++ name.toList ++ ":]".toList, s, true)]

/-- The brackets that are open, the innermost first. -/
structure State where
  level : Level
  outer : List Level

/-- Takes one part of a class, whose first character `c` has been taken. -/
def step (f : Flags) (s : State) (c : Char) : Reader (State ⊕ Part) := do
  if f.verbose && Unicode.isSpace c then
    return .inl s
  else if f.verbose && c = '#' then
    let _ ← Reader.takeWhile (· ≠ '\n')
    return .inl s
  else if c = '[' then
    match ← Reader.oneOf asciiClasses with
    | some (set, negated) =>
      return .inl { s with level := s.level.add ⟨← Escape.foldNegate f negated set, 0⟩ }
    | none => return .inl ⟨← openLevel f, s.level :: s.outer⟩
  else if c = ']' then
    let part ← s.level.close f
    match s.outer with
    | [] => return .inr part
    | l :: outer => return .inl ⟨l.add part, outer⟩
  else
    match operators.find? (·.1.head? = some c) with
    | some (sign, op) =>
      if ← Reader.acceptText sign.tail then
        return .inl { s with level := s.level.operate f op }
      else
        return .inl { s with level := s.level.add (← itemOrRange f c) }
    | none => return .inl { s with level := s.level.add (← itemOrRange f c) }

/-- Takes a class after its opening bracket. -/
def read (f : Flags) : Reader Part := do
  Reader.loop (step f) (fun _ => .error .unclosedClass) ⟨← openLevel f, []⟩

end Bracket

end PathRouter.Regex
