import PathRouter.Proofs.Dispatch.Run
import PathRouter.Proofs.Router.Events

/-!
# Looking up handlers

A lookup asks the router for the identity that a target leads to, and the table for the handler of
that identity. So what it gives depends on the target by its normalized path alone
(`value_lookup_congr`), it tells what the router tells and, if there is a handler, one event more
(`events_lookup`), and running the handler that is found adds nothing to that
(`value_execute`, `events_execute`).
-/

namespace PathRouter

variable {H R : Type}

/-- What a target leads to depends on its normalized path alone. -/
theorem Router.value_dispatch_congr {r : Router} {target target' : String}
    (h : r.normalize target = r.normalize target') :
    (r.dispatch target).value = (r.dispatch target').value := by
  rw [value_dispatch, value_dispatch, value_resolve, value_resolve, h]

namespace Dispatcher

/-! ## Results -/

theorem value_lookup (d : Dispatcher H) (target : String) :
    (d.lookup target).value =
      (d.get (d.router.dispatch target).value.handler).map
        fun handler => (handler, (d.router.dispatch target).value.params) := by
  rw [lookup, Traced.value_bind]
  cases d.get (d.router.dispatch target).value.handler <;> rfl

theorem value_lookup_congr {d : Dispatcher H} {target target' : String}
    (h : d.router.normalize target = d.router.normalize target') :
    (d.lookup target).value = (d.lookup target').value := by
  rw [value_lookup, value_lookup, Router.value_dispatch_congr h]

/-- For a target that a route matches, the identity is that of the route. -/
theorem value_lookup_of_resolve {d : Dispatcher H} {target : String} {m : Resolved}
    (h : (d.router.resolve target).value = some m) :
    (d.lookup target).value = (d.get m.route.handler).map fun handler => (handler, m.params) := by
  have hdispatch : (d.router.dispatch target).value = .ofResolved m := by
    rw [Router.value_dispatch, h]
  rw [value_lookup, hdispatch]
  rfl

theorem value_execute (d : Dispatcher (Params → R)) (target : String) :
    (d.execute target).value =
      (d.lookup target).value.map fun found => found.1 found.2 := by
  rw [execute, Traced.value_bind]
  cases (d.lookup target).value <;> rfl

/-! ## Events -/

/-- What a lookup tells: the search for a route, and the handler if there is one. -/
def lookupEvents (d : Dispatcher H) (target : String) : List Event :=
  d.router.searchEvents target ++
    match (d.lookup target).value with
    | .ok _ => [.dispatching target (d.router.dispatch target).value.handler]
    | .error _ => []

/-- What an operation tells. -/
def told (d : Dispatcher H) : DispatcherOp H → List Event
  | .router op => d.router.told op
  | .lookup target => d.lookupEvents target
  | .handle _ _ | .controller _ _ | .route _ _ _ => []

theorem events_lookup (d : Dispatcher H) (target : String) :
    (d.lookup target).events = d.lookupEvents target := by
  rw [lookupEvents, value_lookup, lookup, Traced.events_bind, Router.events_dispatch]
  cases d.get (d.router.dispatch target).value.handler <;> rfl

theorem events_execute (d : Dispatcher (Params → R)) (target : String) :
    (d.execute target).events = d.lookupEvents target := by
  rw [execute, Traced.events_bind, events_lookup]
  cases (d.lookup target).value <;> exact List.append_nil _

/-- **An operation on a dispatcher tells just that.** -/
theorem events_perform (d : Dispatcher H) (op : DispatcherOp H) :
    (d.perform op).events = d.told op := by
  cases op with
  | handle | controller | route => rfl
  | router op => exact (List.append_nil _).trans (d.router.events_perform op)
  | lookup target => exact (List.append_nil _).trans (d.events_lookup target)

end Dispatcher

end PathRouter
