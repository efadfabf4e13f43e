import PathRouter.Proofs.Service.Serving

/-!
# The log of a program

Whatever a program routes with tells its events to one log: a router of its own, a dispatcher that
runs actions, and a service. `Program.told` says what an operation on any of these tells in a given
state, without a look at how the operation works, and `events_run` is that the log of a run is what
its operations tell, one after the other.
-/

namespace PathRouter

variable {R ε : Type}

/-- The events of a run are those of its steps, each in the state that the steps before it led
to. -/
theorem Traced.events_foldlM {σ ι : Type} (step : σ → ι → Traced σ) (s : σ) (ops : List ι) :
    (ops.foldlM step s).events =
      (ops.mapIdx fun k op => (step ((ops.take k).foldlM step s).value op).events).flatten := by
  induction ops generalizing s with
  | nil => rfl
  | cons op ops ih =>
    rw [List.foldlM_cons, events_bind, ih, List.mapIdx_cons, List.flatten_cons]
    rfl

/-! ## Programs -/

/-- What a program routes with. -/
structure Program (R ε : Type) where
  router : Router
  actions : Dispatcher (Params → R)
  service : Service ε

/-- An operation on what a program routes with. -/
inductive ProgramOp (R ε : Type) where
  | router (op : Op)
  | actions (op : DispatcherOp (Params → R))
  | execute (target : String)
  /-- Does something with the dispatcher of the service. -/
  | endpoints (op : DispatcherOp (Endpoint ε))
  | call (request : Request)

namespace Program

/-- Performs one operation. -/
def perform (p : Program R ε) : ProgramOp R ε → Traced (Program R ε)
  | .router op => do
    let router ← p.router.perform op
    return { p with router }
  | .actions op => do
    let actions ← p.actions.perform op
    return { p with actions }
  | .execute target => do
    let _ ← p.actions.execute target
    return p
  | .endpoints op => do
    let dispatcher ← p.service.dispatcher.perform op
    return { p with service := ⟨dispatcher⟩ }
  | .call request => do
    let _ ← p.service.call request
    return p

/-- Performs the operations one after the other. -/
def run (p : Program R ε) (ops : List (ProgramOp R ε)) : Traced (Program R ε) :=
  ops.foldlM perform p

/-- The program after some operations. -/
def after (p : Program R ε) (ops : List (ProgramOp R ε)) : Program R ε := (p.run ops).value

/-- What an operation tells. -/
def told (p : Program R ε) : ProgramOp R ε → List Event
  | .router op => p.router.told op
  | .actions op => p.actions.told op
  | .execute target => p.actions.lookupEvents target
  | .endpoints op => p.service.dispatcher.told op
  | .call request =>
    .incomingRequest request.method request.uri.render ::
      p.service.dispatcher.lookupEvents request.uri.path

theorem events_perform (p : Program R ε) (op : ProgramOp R ε) :
    (p.perform op).events = p.told op := by
  refine (?_ : (p.perform op).events = p.told op ++ []).trans (List.append_nil _)
  cases op with
  | router op => exact congrArg (· ++ []) (p.router.events_perform op)
  | actions op => exact congrArg (· ++ []) (p.actions.events_perform op)
  | execute target => exact congrArg (· ++ []) (p.actions.events_execute target)
  | endpoints op => exact congrArg (· ++ []) (p.service.dispatcher.events_perform op)
  | call request => exact congrArg (· ++ []) (p.service.events_call request)

end Program

/-! ## Runs -/

/-- **The log of a run is exact.** It is what the operations tell, one after the other, each in the
state that those before it led to: a declaration that is taken tells of its route and one that is
refused tells nothing, and a search tries the routes of the table up to the first that matches, each
once and none behind it, or all where none matches. -/
theorem events_run (p : Program R ε) (ops : List (ProgramOp R ε)) :
    (p.run ops).events = (ops.mapIdx fun k op => (p.after (ops.take k)).told op).flatten ∧
      (∀ (r : Router) (m : Mapping),
        (∃ route, (r.register m).value = .ok { r with routes := r.routes ++ [route] } ∧
            r.told (.register m) = [route.registration] ∧
            r.told (.declare m) = [route.registration]) ∨
          (∃ failure, (r.register m).value = .error failure ∧ r.told (.register m) = [] ∧
            r.told (.declare m) = [])) ∧
      ∀ (r : Router) (target : String), ∃ tried rest, r.routes = tried ++ rest ∧
        (r.resolve target).events.filter Event.isProbe =
          tried.map (·.probe (r.normalize target)) ∧
        (∀ m, (r.resolve target).value = some m → tried.getLast? = some m.route) ∧
        ((r.resolve target).value = none → rest = []) := by
  refine ⟨?_, Router.told_declaration, Router.probes_resolve⟩
  rw [Program.run, Traced.events_foldlM]
  refine congrArg List.flatten (List.mapIdx_eq_mapIdx_iff.mpr fun k hk => ?_)
  exact Program.events_perform _ _

end PathRouter
