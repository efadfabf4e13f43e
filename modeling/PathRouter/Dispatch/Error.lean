import PathRouter.Router.HandlerId
import PathRouter.Text.Quoted

/-!
Identities that no handler is bound to.
-/

namespace PathRouter

/-- Why there is no handler. -/
inductive DispatchError where
  | controllerNotFound (controller : String)
  | actionNotFound (controller action : String)
deriving DecidableEq, Repr

namespace DispatchError

/-- The wording of the error. -/
def message : DispatchError → String
  | controllerNotFound controller =>
    "controller " ++ Text.quote controller ++ " does not exist"
  | actionNotFound controller action =>
    "action " ++ Text.quote action ++ " not found in controller " ++ Text.quote controller

end DispatchError

end PathRouter
