/-!
The flags that change how an expression is read, and the changes that a group asks for.
-/

namespace PathRouter.Regex

/-- A flag, by what it switches on. -/
inductive Flag where
  | ignoreCase
  | multiLine
  | dotMatchesNewline
  | swapGreed
  | unicode
  | crlf
  | verbose
deriving DecidableEq, Repr

namespace Flag

/-- The flag that a letter stands for. -/
def ofLetter? : Char → Option Flag
  | 'i' => some ignoreCase
  | 'm' => some multiLine
  | 's' => some dotMatchesNewline
  | 'U' => some swapGreed
  | 'u' => some unicode
  | 'R' => some crlf
  | 'x' => some verbose
  | _ => none

end Flag

/-- The flags in force at a place of an expression. -/
structure Flags where
  /-- Letters match in either case. -/
  ignoreCase : Bool := false
  /-- `^` and `$` match at the ends of lines, too. -/
  multiLine : Bool := false
  /-- `.` matches line feeds, too. -/
  dotMatchesNewline : Bool := false
  /-- Quantifiers are lazy, and greedy with a `?` after them. -/
  swapGreed : Bool := false
  /-- Classes, case and word boundaries are those of Unicode, not of ASCII. -/
  unicode : Bool := true
  /-- A carriage return ends a line, too. -/
  crlf : Bool := false
  /-- White space and comments stand for nothing. -/
  verbose : Bool := false
deriving DecidableEq, Repr

namespace Flags

/-- Sets one flag. -/
def set (f : Flags) (flag : Flag) (value : Bool) : Flags :=
  match flag with
  | .ignoreCase => { f with ignoreCase := value }
  | .multiLine => { f with multiLine := value }
  | .dotMatchesNewline => { f with dotMatchesNewline := value }
  | .swapGreed => { f with swapGreed := value }
  | .unicode => { f with unicode := value }
  | .crlf => { f with crlf := value }
  | .verbose => { f with verbose := value }

/-- Carries out a list of changes. -/
def change (f : Flags) (changes : List (Flag × Bool)) : Flags :=
  changes.foldl (fun f c => f.set c.1 c.2) f

end Flags

end PathRouter.Regex
