import PathRouter.Dispatch.Dispatcher
import PathRouter.Proofs.Router.Run

/-!
# Runs of a dispatcher

A program uses a dispatcher by a sequence of operations: it binds handlers in one of three ways,
works on the dispatcher's router, and asks for the handlers of targets. `Dispatcher.run` performs
such a sequence and keeps the events; `Dispatcher.after` is the dispatcher that it leaves.
-/

namespace PathRouter

variable {H : Type}

/-- An operation on a dispatcher. -/
inductive DispatcherOp (H : Type) where
  | handle (id : HandlerId) (handler : H)
  /-- Names a controller and binds handlers to actions of it, one after the other, or none. -/
  | controller (name : String) (actions : List (String × H))
  | route (controller action : String) (handler : H)
  /-- Does something with the router. -/
  | router (op : Op)
  | lookup (target : String)

/-- Binds handlers to actions, one after the other. -/
def Controller.bindAll (c : Controller H) (actions : List (String × H)) : Controller H :=
  actions.foldl (fun c action => c.bind action.1 action.2) c

namespace Dispatcher

/-- Performs one operation. -/
def perform (d : Dispatcher H) : DispatcherOp H → Traced (Dispatcher H)
  | .handle id handler => return d.handle id handler
  | .controller name actions => return d.modifyController name (·.bindAll actions)
  | .route controller action handler => return d.route controller action handler
  | .router op => do
    let router ← d.router.perform op
    return d.withRouter router
  | .lookup target => do
    let _ ← d.lookup target
    return d

/-- Performs the operations one after the other. -/
def run (d : Dispatcher H) (ops : List (DispatcherOp H)) : Traced (Dispatcher H) :=
  ops.foldlM perform d

/-- The dispatcher after some operations. -/
def after (d : Dispatcher H) (ops : List (DispatcherOp H)) : Dispatcher H := (d.run ops).value

@[simp] theorem after_nil (d : Dispatcher H) : d.after [] = d := rfl

@[simp] theorem after_cons (d : Dispatcher H) (op : DispatcherOp H) (ops : List (DispatcherOp H)) :
    d.after (op :: ops) = (d.perform op).value.after ops := rfl

end Dispatcher

end PathRouter
