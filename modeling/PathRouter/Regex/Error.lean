/-!
Why a text is no regular expression, or one that this library does not run.
-/

namespace PathRouter.Regex

/-- A fault in the text of an expression. -/
inductive SyntaxError where
  /-- A group is open at the end. -/
  | unclosedGroup
  /-- A `)` closes nothing. -/
  | unopenedGroup
  /-- A bracketed class is open at the end. -/
  | unclosedClass
  /-- A range in a class runs backwards. -/
  | invalidRange
  /-- An escape in a class does not stand for a character, or does so where one is needed. -/
  | invalidClassItem
  /-- A quantifier follows nothing that could be repeated. -/
  | nothingToRepeat
  /-- A counted quantifier is no count, or its bounds run backwards. -/
  | invalidCount
  /-- An escape is cut short or unknown. -/
  | invalidEscape
  /-- A hexadecimal escape names no character. -/
  | invalidCodePoint
  /-- A Unicode property is unknown. -/
  | unknownProperty
  /-- A group's name is empty, unclosed or holds a character that no name may hold. -/
  | invalidGroupName
  /-- Two groups have one name. -/
  | duplicateGroupName
  /-- The flags of a group are unknown, repeated or cut short. -/
  | invalidFlags
  /-- A group looks ahead or behind. -/
  | unsupportedLookaround
  /-- Something beyond ASCII is asked for where Unicode is switched off. -/
  | beyondAscii
  /-- The expression is nested too deeply. -/
  | tooDeep
deriving DecidableEq, Repr

/-- Why an expression cannot be used. -/
inductive CompileError where
  /-- Its text is at fault. -/
  | malformed (cause : SyntaxError)
  /-- Its repetitions, written out, are too many. -/
  | tooBig
deriving DecidableEq, Repr

end PathRouter.Regex
