import PathRouter.Pattern.Error

/-!
Routes that a router does not take.
-/

namespace PathRouter

/-- Why a router does not take a route. -/
inductive RouterError where
  /-- A route with the same expression is there already. -/
  | conflict (pattern existing : String)
  /-- The expression of the pattern cannot be used. -/
  | expression (e : Pattern.ExpressionError)
deriving DecidableEq, Repr

namespace RouterError

/-- The wording of the error. -/
def message : RouterError → String
  | conflict pattern existing =>
    "pattern " ++ Text.quote pattern ++ " compiles to the same expression as existing pattern " ++
      Text.quote existing
  | expression e => e.message

/-- Whether the error is a conflict with another route. -/
def isConflict : RouterError → Bool
  | conflict _ _ => true
  | expression _ => false

end RouterError

end PathRouter
