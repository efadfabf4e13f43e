import PathRouter.Regex.Error
import PathRouter.Text.Quoted

/-!
Patterns that give no expression.
-/

namespace PathRouter.Pattern

/-- A pattern whose expression cannot be used. -/
structure ExpressionError where
  /-- The text of the pattern. -/
  source : String
  /-- The first capture whose condition cannot be used by itself either. -/
  parameter : Option String
  /-- What is wrong with the expression. -/
  cause : Regex.CompileError
deriving DecidableEq, Repr

namespace ExpressionError

/-- The wording of the error. -/
def message (e : ExpressionError) : String :=
  "invalid expression in pattern " ++ Text.quote e.source ++
    match e.parameter with
    | some name => " for parameter " ++ Text.quote name
    | none => ""

end ExpressionError

end PathRouter.Pattern
