import PathRouter.Dispatch.Error
import PathRouter.Router.Basic
import Std.Data.HashMap

/-!
Dispatchers: a router together with the handlers that its routes lead to. Handlers are kept by
controller and action; a controller comes into being when it is first named.
-/

namespace PathRouter

/-- The handlers of a controller, by the name of the action. -/
structure Controller (H : Type) where
  actions : Std.HashMap String H

namespace Controller

variable {H : Type}

/-- A controller without actions. -/
def empty : Controller H := ⟨∅⟩

/-- Binds a handler to an action, in place of any that was bound to it. -/
def bind (c : Controller H) (action : String) (handler : H) : Controller H :=
  ⟨c.actions.insert action handler⟩

/-- The handler of an action. -/
def get? (c : Controller H) (action : String) : Option H := c.actions[action]?

end Controller

/-- A router and the handlers that its routes lead to. -/
structure Dispatcher (H : Type) where
  router : Router
  controllers : Std.HashMap String (Controller H)

namespace Dispatcher

variable {H R : Type}

/-- A dispatcher without handlers. -/
def ofRouter (router : Router) : Dispatcher H := ⟨router, ∅⟩

/-- Puts another router in place of the dispatcher's. -/
def withRouter (d : Dispatcher H) (router : Router) : Dispatcher H := { d with router }

/-- The controller `name`, without actions if it has not been named before. -/
def controller (d : Dispatcher H) (name : String) : Controller H :=
  d.controllers.getD name .empty

/-- Changes the controller `name`, which comes into being if need be. -/
def modifyController (d : Dispatcher H) (name : String) (f : Controller H → Controller H) :
    Dispatcher H :=
  { d with controllers := d.controllers.insert name (f (d.controller name)) }

/-- Binds a handler to an identity, in place of any that was bound to it. -/
def handle (d : Dispatcher H) (id : HandlerId) (handler : H) : Dispatcher H :=
  d.modifyController id.controller (·.bind id.action handler)

/-- Binds a handler to an action of a controller, in place of any that was bound to it. -/
def route (d : Dispatcher H) (controller action : String) (handler : H) : Dispatcher H :=
  d.handle ⟨controller, action⟩ handler

/-- The handler that is bound to an identity. -/
def get (d : Dispatcher H) (id : HandlerId) : Except DispatchError H :=
  match d.controllers[id.controller]? with
  | none => .error (.controllerNotFound id.controller)
  | some c =>
    match c.get? id.action with
    | none => .error (.actionNotFound id.controller id.action)
    | some handler => .ok handler

/-- The handler that a request target leads to, and the parameters for it. -/
def lookup (d : Dispatcher H) (target : String) : Traced (Except DispatchError (H × Params)) := do
  let found ← d.router.dispatch target
  match d.get found.handler with
  | .error e => return .error e
  | .ok handler =>
    Traced.tell (.dispatching target found.handler)
    return .ok (handler, found.params)

/-- Runs the handler that a request target leads to and gives its result. -/
def execute (d : Dispatcher (Params → R)) (target : String) :
    Traced (Except DispatchError R) := do
  match ← d.lookup target with
  | .error e => return .error e
  | .ok (action, params) => return .ok (action params)

end Dispatcher

end PathRouter
