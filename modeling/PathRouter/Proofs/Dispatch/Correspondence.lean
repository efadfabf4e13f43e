import PathRouter.Proofs.Dispatch.Lookup
import PathRouter.Proofs.Dispatch.Table

/-!
# Dispatchers with the same identities

Dispatchers may differ in what their handlers are and still agree in everything else: `MapsTo` says
that one has the same router as another and, for each identity, the image of the other's handler.
Then a lookup in the one gives the image of what it gives in the other (`MapsTo.value_lookup`). A
program that builds both in the same way gets such dispatchers (`mapsTo_after`).
-/

namespace PathRouter

variable {H K : Type}

/-- `d'` has the router of `d` and, for each identity, the image of its handler under `f`. -/
structure Dispatcher.MapsTo (d : Dispatcher H) (f : H → K) (d' : Dispatcher K) : Prop where
  router : d'.router = d.router
  get : ∀ id, d'.get id = (d.get id).map f

theorem Dispatcher.MapsTo.value_lookup {d : Dispatcher H} {f : H → K} {d' : Dispatcher K}
    (h : d.MapsTo f d') (target : String) :
    (d'.lookup target).value = (d.lookup target).value.map fun found => (f found.1, found.2) := by
  rw [Dispatcher.value_lookup, Dispatcher.value_lookup, h.router, h.get]
  cases d.get (d.router.dispatch target).value.handler <;> rfl

/-! ## Runs with other handlers -/

/-- The operation with the image of each handler. -/
def DispatcherOp.map (f : H → K) : DispatcherOp H → DispatcherOp K
  | .handle id handler => .handle id (f handler)
  | .controller name actions => .controller name (actions.map fun action => (action.1, f action.2))
  | .route name action handler => .route name action (f handler)
  | .router op => .router op
  | .lookup target => .lookup target

theorem DispatcherOp.write?_map (f : H → K) (op : DispatcherOp H) :
    (op.map f).write? =
      op.write?.map fun entry => (entry.1, entry.2.map fun action => (action.1, f action.2)) := by
  cases op <;> rfl

theorem named_map (f : H → K) (ops : List (DispatcherOp H)) :
    named (ops.map (·.map f)) = named ops := by
  rw [named, named, List.filterMap_map]
  refine List.filterMap_congr fun op _ => ?_
  rw [Function.comp, DispatcherOp.named?, DispatcherOp.write?_map, Option.map_map]
  rfl

theorem DispatcherOp.bindings_map (f : H → K) (op : DispatcherOp H) :
    (op.map f).bindings = op.bindings.map fun binding => (binding.1, f binding.2) := by
  rw [bindings, bindings, write?_map]
  cases op.write? with
  | none => rfl
  | some entry => simp

theorem bindings_map (f : H → K) (ops : List (DispatcherOp H)) :
    bindings (ops.map (·.map f)) = (bindings ops).map fun binding => (binding.1, f binding.2) := by
  rw [bindings, bindings, List.flatMap_map, List.map_flatMap]
  exact List.flatMap_congr fun op _ => op.bindings_map f

theorem lastBinding_map (f : H → K) (ops : List (DispatcherOp H)) (id : HandlerId) :
    lastBinding (ops.map (·.map f)) id = (lastBinding ops id).map f := by
  rw [lastBinding, bindings_map, ← List.map_reverse, lookup_map_key fun _ => f, lastBinding]

theorem routerOp?_map (f : H → K) (ops : List (DispatcherOp H)) :
    (ops.map (·.map f)).filterMap DispatcherOp.routerOp? =
      ops.filterMap DispatcherOp.routerOp? := by
  rw [List.filterMap_map]
  refine List.filterMap_congr fun op _ => ?_
  cases op <;> rfl

/-- The same run with other handlers leads to a dispatcher with the same identities. -/
theorem mapsTo_after (router : Router) (f : H → K) (ops : List (DispatcherOp H)) :
    ((Dispatcher.ofRouter router).after ops).MapsTo f
      ((Dispatcher.ofRouter router).after (ops.map (·.map f))) where
  router := by
    rw [Dispatcher.router_after, Dispatcher.router_after, routerOp?_map]
    rfl
  get id := by
    have htable := tabulates_after_ofRouter router ops
    have htable' := tabulates_after_ofRouter router (ops.map (·.map f))
    refine Dispatcher.get_map ?_ ?_
    · rw [htable.mem_controllers, htable'.mem_controllers, named_map]
    · rw [htable.bound?, htable'.bound?]
      exact lastBinding_map f ops id

end PathRouter
