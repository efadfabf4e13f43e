import PathRouter.Pattern.Basic
import PathRouter.Router.HandlerId
import PathRouter.Text.Percent

/-!
Routes: a pattern, the handler it leads to, and parameters that every match has.
-/

namespace PathRouter

/-- A route. -/
structure Route where
  pattern : Pattern
  handler : HandlerId
  /-- Parameters that every match has, over any captures of the same names. -/
  staticParams : Params
  /-- The conditions that the pattern was made with. -/
  conditions : Conditions

namespace Route

/-- The route of a pattern. -/
def compile (source : String) (handler : HandlerId) (staticParams : Params)
    (conditions : Conditions) : Except Pattern.ExpressionError Route := do
  let pattern ← Pattern.compile source conditions
  return { pattern, handler, staticParams, conditions }

/-- The text of the pattern. -/
def source (r : Route) : String := r.pattern.source

/-- The text of the pattern's expression. -/
def expression (r : Route) : String := r.pattern.expression

/-- Whether a path matches. -/
def isMatch (r : Route) (path : String) : Bool := r.pattern.isMatch path

/-- The values of captures, decoded. -/
def decodeCaptures (captures : List (String × String)) : List (String × String) :=
  captures.map fun (name, raw) => (name, Text.Percent.decode raw)

/-- The parameters of a path that matches: its captures, decoded, and over them the parameters that
every match has. -/
def paramsFor (r : Route) (path : String) : Option Params :=
  (r.pattern.captures path).map fun captures =>
    (Params.ofList (decodeCaptures captures)).merge r.staticParams

end Route

end PathRouter
