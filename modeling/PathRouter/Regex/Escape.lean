import PathRouter.Regex.Expr
import PathRouter.Regex.Flags
import PathRouter.Regex.Reader

/-!
Escapes: what may follow a backslash, inside a bracketed class and outside.
-/

namespace PathRouter.Regex

/-- What an escape stands for. -/
inductive Escape where
  | literal (c : Char)
  | chars (s : CharSet)
  | look (l : Look)
deriving DecidableEq, Repr

namespace Escape

/-! ### Characters by number -/

/-- The value of a hexadecimal digit. -/
def hexValue? (c : Char) : Option Nat :=
  if '0' ≤ c ∧ c ≤ '9' then some (c.toNat - '0'.toNat)
  else if 'a' ≤ c ∧ c ≤ 'f' then some (c.toNat - 'a'.toNat + 10)
  else if 'A' ≤ c ∧ c ≤ 'F' then some (c.toNat - 'A'.toNat + 10)
  else none

/-- Takes one hexadecimal digit. -/
def hexDigit : Reader Nat := do
  Reader.ofOption .invalidEscape (hexValue? (← Reader.next .invalidEscape))

/-- Takes `count` hexadecimal digits on from the number `n`. -/
def fixedNumber (verbose : Bool) (n : Nat) : Nat → Reader Nat
  | 0 => Reader.give n
  | count + 1 => do
    Reader.blank verbose
    fixedNumber verbose (n * 16 + (← hexDigit)) count

/-- Takes hexadecimal digits up to a closing brace, at least one. -/
def bracedNumber (verbose : Bool) : Reader Nat := do
  Reader.blank verbose
  let n ← Reader.loop (fun (n : Option Nat) c => do
    if c = '\x7d' then return .inr n
    let d ← Reader.ofOption .invalidEscape (hexValue? c)
    Reader.blank verbose
    return .inl (some (n.getD 0 * 16 + d))) (fun _ => .error .invalidEscape) none
  Reader.ofOption .invalidEscape n

/-- The character with the number `n`. -/
def charOfNumber (n : Nat) : Reader Char :=
  if n.isValidChar then Reader.give (Char.ofNat n) else Reader.fault .invalidCodePoint

/-- Takes a number and gives its character: in braces, or with exactly `digits` digits. Without
Unicode, two digits name a byte, and one beyond ASCII is no text. -/
def numbered (f : Flags) (digits : Nat) : Reader Char := do
  Reader.blank f.verbose
  if ← Reader.accept '\x7b' then
    charOfNumber (← bracedNumber f.verbose)
  else
    let n ← fixedNumber f.verbose 0 digits
    if !f.unicode && digits = 2 && n > 0x7F then throw .beyondAscii
    charOfNumber n

/-! ### Unicode properties

Names are read in every form that Unicode has for them, but only some properties are known. The name
of any other one is refused, as a name is that no property has. -/

/-- Takes the name of a property: one character, or all up to a closing brace. -/
def propertyName (verbose : Bool) : Reader (List Char) := do
  Reader.blank verbose
  if ← Reader.accept '\x7b' then
    Reader.blank verbose
    Reader.loop (fun name c => do
      if c = '\x7d' then return .inr name.reverse
      Reader.blank verbose
      return .inl (c :: name)) (fun _ => .error .invalidEscape) []
  else
    let c ← Reader.next .invalidEscape
    if c = '\\' then throw .unknownProperty
    return [c]

/-- The form in which names are compared: without case, spaces, hyphens, underscores and all that
is not ASCII, and without an `is` in front. -/
def looseName (name : List Char) : String :=
  let name := if (name.take 2).map Char.toLower = ['i', 's'] then name.drop 2 else name
  String.ofList
    ((name.filter fun c => c ≠ ' ' && c ≠ '_' && c ≠ '-' && c.toNat < 0x80).map Char.toLower)

/-- The general categories that are known, by their loose names. Every other one, such as `Ll` or
`P`, is refused as an unknown property. -/
def categories : List (String × Property) := [
  ("l", .letter), ("letter", .letter),
  ("lu", .uppercaseLetter), ("uppercaseletter", .uppercaseLetter),
  ("m", .mark), ("mark", .mark), ("combiningmark", .mark),
  ("n", .number), ("number", .number),
  ("nd", .decimalDigit), ("decimalnumber", .decimalDigit), ("digit", .decimalDigit)]

/-- The scripts that are known, by their loose names. Every other script, such as `Latin` or
`Cyrillic`, is refused as an unknown property. -/
def scripts : List (String × Property) := [
  ("greek", .greek), ("grek", .greek), ("han", .han), ("hani", .han)]

/-- The properties that hold or do not and are known, by their loose names. Every other one, such as
`Lowercase` or `Any`, is refused as an unknown property. -/
def binaryProperties : List (String × Property) := [
  ("alphabetic", .alphabetic), ("alpha", .alphabetic),
  ("whitespace", .space), ("wspace", .space), ("space", .space)]

/-- The parts of `cs` before and after the first `sep`. -/
def splitAt? (sep : List Char) : List Char → Option (List Char × List Char)
  | [] => none
  | c :: rest =>
    if sep.isPrefixOf (c :: rest) then some ([], (c :: rest).drop sep.length)
    else (splitAt? sep rest).map fun (before, after) => (c :: before, after)

/-- The property that a value of another property names, as in `Script=Greek`. -/
def valueProperty? (name value : List Char) : Option Property :=
  match looseName name with
  | "gc" | "generalcategory" => categories.lookup (looseName value)
  | "sc" | "script" => scripts.lookup (looseName value)
  | _ => none

/-- The property that a name stands for, and whether the name negates it. -/
def property? (name : List Char) : Option (Property × Bool) :=
  match splitAt? ['!', '='] name with
  | some (name, value) => (valueProperty? name value).map (·, true)
  | none =>
    match splitAt? [':'] name <|> splitAt? ['='] name with
    | some (name, value) => (valueProperty? name value).map (·, false)
    | none =>
      ((binaryProperties ++ categories ++ scripts).lookup (looseName name)).map (·, false)

/-- The set `s` closed under case where case is ignored, and then negated if asked. Negation
without Unicode would take in bytes that are no text. -/
def foldNegate (f : Flags) (negated : Bool) (s : CharSet) : Reader CharSet :=
  let s := if f.ignoreCase then .foldCase f.unicode s else s
  if negated then
    if f.unicode then Reader.give (.compl s) else Reader.fault .beyondAscii
  else Reader.give s

/-- Takes a property and gives its characters. -/
def propertySet (f : Flags) (negated : Bool) : Reader CharSet := do
  let (p, differs) ← Reader.ofOption .unknownProperty (property? (← propertyName f.verbose))
  if !f.unicode then throw .beyondAscii
  foldNegate f (negated != differs) (.property p)

/-! ### Classes of one letter -/

/-- The class of a lower-case letter: digits, white space or word characters. -/
def letterClass (unicode : Bool) : Char → CharSet
  | 'd' => if unicode then .property .decimalDigit else .asciiDigit
  | 's' => if unicode then .property .space else .asciiSpace
  | _ => if unicode then .property .word else .asciiWord

/-! ### Word edges -/

/-- The edges with a name in braces. -/
def namedEdges : List (List Char × WordEdge) := [
  ("start-half".toList, .startHalf),
  ("end-half".toList, .stopHalf),
  ("start".toList, .start),
  ("end".toList, .stop)]

/-- Takes the name of an edge after its opening brace. -/
def edgeName (verbose : Bool) : Reader WordEdge := do
  Reader.blank verbose
  let name ← Reader.loop (fun name c => do
    if c = '\x7d' then return .inr name.reverse
    if !c.isAlpha && c ≠ '-' then throw .invalidEscape
    Reader.blank verbose
    return .inl (c :: name)) (fun _ => .error .invalidEscape) []
  Reader.ofOption .invalidEscape (namedEdges.lookup name)

/-- Whether a brace comes next that opens a name, not a count. At the end of the text it opens
neither. -/
def opensName (verbose : Bool) : List Char → Except SyntaxError Bool
  | '\x7b' :: rest =>
    match skipBlank verbose rest with
    | [] => .error .invalidEscape
    | c :: _ => .ok (c.isAlpha || c = '-')
  | _ => .ok false

/-- Takes the rest of a word boundary: an edge in braces, or nothing. -/
def boundary (f : Flags) : Reader WordEdge := fun cs =>
  match opensName f.verbose cs with
  | .error e => .error e
  | .ok false => .ok ⟨.boundary, cs, List.suffix_rfl⟩
  | .ok true => (do let _ ← Reader.next .invalidEscape; edgeName f.verbose) cs

/-! ### All escapes -/

/-- Whether `c` may be escaped to stand for itself: all of ASCII but letters, digits and the angle
brackets. -/
def isPlain (c : Char) : Bool :=
  c.toNat < 0x80 && !c.isAlphanum && c ≠ '<' && c ≠ '>'

/-- Takes what follows a backslash. -/
def read (f : Flags) : Reader Escape := do
  let c ← Reader.next .invalidEscape
  match c with
  | 'x' => literal <$> numbered f 2
  | 'u' => literal <$> numbered f 4
  | 'U' => literal <$> numbered f 8
  | 'p' => chars <$> propertySet f false
  | 'P' => chars <$> propertySet f true
  | 'd' | 's' | 'w' => return chars (letterClass f.unicode c)
  | 'D' | 'S' | 'W' =>
    if f.unicode then return chars (.compl (letterClass true c.toLower)) else throw .beyondAscii
  | 'a' => return literal '\x07'
  | 'f' => return literal '\x0c'
  | 't' => return literal '\t'
  | 'n' => return literal '\n'
  | 'r' => return literal '\r'
  | 'v' => return literal '\x0b'
  | 'A' => return look .textStart
  | 'z' => return look .textEnd
  | 'b' => return look (.word f.unicode (← boundary f))
  | 'B' => return look (.word f.unicode .inside)
  | '<' => return look (.word f.unicode .start)
  | '>' => return look (.word f.unicode .stop)
  | c => if isPlain c then return literal c else throw .invalidEscape

end Escape

end PathRouter.Regex
