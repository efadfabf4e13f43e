import PathRouter.Unicode.Alphabetic
import PathRouter.Unicode.Mark
import PathRouter.Unicode.Number

/-!
Word characters, as the Unicode standard recommends them for regular expressions.
-/

namespace PathRouter.Unicode

/-- Characters of general category `Pc`, the connectors between the parts of a word. -/
def connector : RangeTable where
  ranges := [(0x5F, 0x5F), (0x203F, 0x2040), (0x2054, 0x2054), (0xFE33, 0xFE34), (0xFE4D, 0xFE4F),
    (0xFF3F, 0xFF3F)]

/-- Whether `c` joins its neighbours (`Join_Control`). -/
def isJoinControl (c : Char) : Bool := c = '\u200c' || c = '\u200d'

/-- Whether `c` belongs to a word: letters, marks, decimal digits, connectors and joiners. -/
def isWord (c : Char) : Bool :=
  isAlphabetic c || isMark c || isDecimalDigit c || connector.contains c || isJoinControl c

end PathRouter.Unicode
