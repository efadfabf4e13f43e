import PathRouter.Unicode.CaseFold
import PathRouter.Unicode.Letter
import PathRouter.Unicode.Script
import PathRouter.Unicode.Space
import PathRouter.Unicode.Uppercase
import PathRouter.Unicode.Word

/-!
Sets of characters as expressions: ranges, named classes, the Boolean operations and closure under
case. A set is never listed; membership is decided by recursion on the expression.
-/

namespace PathRouter.Regex

/-- A Unicode property whose characters form a class: not every one that Unicode has, but those that
the classes of one letter and the known names stand for. -/
inductive Property where
  | letter
  | uppercaseLetter
  | mark
  | number
  | decimalDigit
  | alphabetic
  | space
  | word
  | han
  | greek
deriving DecidableEq, Repr

namespace Property

/-- Whether `c` has the property. -/
def holds : Property → Char → Bool
  | letter => Unicode.isLetter
  | uppercaseLetter => Unicode.isUppercaseLetter
  | mark => Unicode.isMark
  | number => Unicode.isNumber
  | decimalDigit => Unicode.isDecimalDigit
  | alphabetic => Unicode.isAlphabetic
  | space => Unicode.isSpace
  | word => Unicode.isWord
  | han => Unicode.isHan
  | greek => Unicode.isGreek

end Property

/-- A set of characters. -/
inductive CharSet where
  | empty
  | range (first last : Char)
  | property (p : Property)
  | union (s t : CharSet)
  | inter (s t : CharSet)
  | diff (s t : CharSet)
  | compl (s : CharSet)
  /-- All characters that differ from one in `s` only in case: any, or ASCII letters alone. -/
  | foldCase (unicode : Bool) (s : CharSet)
deriving DecidableEq, Repr

namespace CharSet

/-- Whether `c` is in the set. -/
def contains : CharSet → Char → Bool
  | empty, _ => false
  | range first last, c => first ≤ c && c ≤ last
  | property p, c => p.holds c
  | union s t, c => s.contains c || t.contains c
  | inter s t, c => s.contains c && t.contains c
  | diff s t, c => s.contains c && !t.contains c
  | compl s, c => !s.contains c
  | foldCase true s, c => (Unicode.caseVariants c).any s.contains
  | foldCase false s, c => (Unicode.asciiCaseVariants c).any s.contains

/-- The set that holds `c` alone. -/
def single (c : Char) : CharSet := range c c

/-- The characters in just one of two sets. -/
def symmDiff (s t : CharSet) : CharSet := union (diff s t) (diff t s)

/-- The union of a list of sets. -/
def unions : List CharSet → CharSet
  | [] => empty
  | [s] => s
  | s :: rest => union s (unions rest)

/-- The set of the listed characters. -/
def ofChars (cs : List Char) : CharSet := unions (cs.map single)

/-- ASCII digits. -/
def asciiDigit : CharSet := range '0' '9'

/-- ASCII letters of either case. -/
def asciiAlpha : CharSet := union (range 'a' 'z') (range 'A' 'Z')

/-- ASCII letters and digits. -/
def asciiAlnum : CharSet := union asciiAlpha asciiDigit

/-- ASCII letters, digits and the underscore. -/
def asciiWord : CharSet := union asciiAlnum (single '_')

/-- ASCII white space. -/
def asciiSpace : CharSet := union (range '\t' '\r') (single ' ')

/-- ASCII punctuation. -/
def asciiPunct : CharSet :=
  unions [range '!' '/', range ':' '@', range '[' '\x60', range '\x7b' '~']

/-- The classes with a name between `[:` and `:]`. -/
def namedAscii : List (String × CharSet) := [
  ("alnum", asciiAlnum),
  ("alpha", asciiAlpha),
  ("ascii", range '\x00' '\x7f'),
  ("blank", ofChars ['\t', ' ']),
  ("cntrl", union (range '\x00' '\x1f') (single '\x7f')),
  ("digit", asciiDigit),
  ("graph", range '!' '~'),
  ("lower", range 'a' 'z'),
  ("print", range ' ' '~'),
  ("punct", asciiPunct),
  ("space", asciiSpace),
  ("upper", range 'A' 'Z'),
  ("word", asciiWord),
  ("xdigit", unions [asciiDigit, range 'A' 'F', range 'a' 'f'])]

end CharSet

end PathRouter.Regex
