import PathRouter.Params

/-!
Declarations of routes, which may leave their handler to the router's defaults.
-/

namespace PathRouter

/-- The declaration of a route. -/
structure Mapping where
  pattern : String
  /-- The controller, unless it is the default one. -/
  controller : Option String
  /-- The action, unless it is the default one. -/
  action : Option String
  /-- Parameters that every match has. -/
  params : Params
  /-- Expressions that replace the default one, by the name of the capture. -/
  conditions : Params

namespace Mapping

/-- The declaration of a pattern and nothing else. -/
def ofPattern (pattern : String) : Mapping := ⟨pattern, none, none, .empty, .empty⟩

/-- The declaration of a pattern with its handler. -/
def toHandler (pattern controller action : String) : Mapping :=
  { ofPattern pattern with controller := some controller, action := some action }

/-- Sets the controller. -/
def withController (m : Mapping) (controller : String) : Mapping :=
  { m with controller := some controller }

/-- Sets the action. -/
def withAction (m : Mapping) (action : String) : Mapping := { m with action := some action }

/-- Adds a parameter that every match has. -/
def withParam (m : Mapping) (name value : String) : Mapping :=
  { m with params := m.params.insert name value }

/-- Adds several of them. -/
def withParams (m : Mapping) (pairs : List (String × String)) : Mapping :=
  { m with params := m.params.extend pairs }

/-- Sets the expression of a capture. -/
def withCondition (m : Mapping) (name expression : String) : Mapping :=
  { m with conditions := m.conditions.insert name expression }

end Mapping

end PathRouter
