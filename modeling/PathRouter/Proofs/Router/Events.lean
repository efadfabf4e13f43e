import PathRouter.Proofs.Router.Resolution

/-!
# What a router tells

The events of an operation show how a router works: which routes a search has tried, where it has
stopped, and whether a declaration has been taken. `Router.told` says what an operation tells from
the state before it alone; it looks at the table and at which of its routes match, and never at a
scan. `events_perform` is that nothing else is told.
-/

namespace PathRouter

/-- A route is tried on a path. -/
def Route.probe (path : String) (route : Route) : Event := .testingRoute route.source path

/-- A route has been added. -/
def Route.registration (route : Route) : Event :=
  .routeRegistered route.source route.expression route.handler

/-- Whether the event is that a route is tried. -/
def Event.isProbe : Event → Bool
  | .testingRoute _ _ => true
  | _ => false

namespace Router

/-- What a search tells: each route up to the first that matches, and that one; or, where none
matches, all routes and their number. -/
def searchEvents (r : Router) (target : String) : List Event :=
  let path := r.normalize target
  match r.routes.findIdx? (·.isMatch path) with
  | some i =>
    (r.routes.take (i + 1)).map (·.probe path) ++
      r.routes[i]?.toList.map fun route => .routeMatched path route.source route.handler
  | none => r.routes.map (·.probe path) ++ [.noRouteMatched path r.routes.length]

/-- What a declaration tells, by its outcome: the routes that have come to those of `r`. -/
def registrations {ε : Type} (r : Router) : Except ε Router → List Event
  | .ok r' => (r'.routes.drop r.routes.length).map Route.registration
  | .error _ => []

/-- What an operation tells. -/
def told (r : Router) : Op → List Event
  | .register m => r.registrations (r.register m).value
  | .declare m => r.registrations (r.declare m).value
  | .resolve target | .dispatch target => r.searchEvents target
  | .clear | .setSubDir _ | .setDefaultController _ | .setDefaultAction _
  | .setNotFoundController _ => []

/-! ## Searches -/

theorem events_firstMatch_of_findIdx?_eq_some {path : String} {routes : List Route} {i : Nat}
    (h : routes.findIdx? (·.isMatch path) = some i) :
    (firstMatch path routes).events = (routes.take (i + 1)).map (·.probe path) := by
  induction routes generalizing i with
  | nil => cases h
  | cons route rest ih =>
    rw [List.findIdx?_cons] at h
    rw [firstMatch, Traced.events_bind]
    cases hparams : route.paramsFor path with
    | some params =>
      have hmatch : route.isMatch path := by
        rw [← Route.isSome_paramsFor, hparams]
        rfl
      rw [if_pos hmatch] at h
      cases h
      rfl
    | none =>
      -- the first route has been tried, and the place of the match counts from behind it
      rw [if_neg (by simp [Route.paramsFor_eq_none_iff.mp hparams])] at h
      obtain ⟨j, hj, rfl⟩ := Option.map_eq_some_iff.mp h
      rw [List.take_succ_cons, List.map_cons, ← ih hj]
      rfl

theorem events_firstMatch_of_findIdx?_eq_none {path : String} {routes : List Route}
    (h : routes.findIdx? (·.isMatch path) = none) :
    (firstMatch path routes).events = routes.map (·.probe path) := by
  induction routes with
  | nil => rfl
  | cons route rest ih =>
    rw [List.findIdx?_eq_none_iff] at h ih
    have hnone : route.paramsFor path = none :=
      Route.paramsFor_eq_none_iff.mpr (h route List.mem_cons_self)
    rw [firstMatch, Traced.events_bind, hnone, List.map_cons,
      ← ih fun other hother => h other (List.mem_cons_of_mem _ hother)]
    rfl

/-- The place of the first route that matches is that of the route that is found. -/
theorem value_firstMatch_of_findIdx?_eq_some {path : String} {routes : List Route} {i : Nat}
    (h : routes.findIdx? (·.isMatch path) = some i) :
    ∃ m, (firstMatch path routes).value = some m ∧ routes[i]? = some m.route := by
  obtain ⟨hi, hmatch, hbefore⟩ := List.findIdx?_eq_some_iff_getElem.mp h
  rw [← Route.isSome_paramsFor, Option.isSome_iff_exists] at hmatch
  obtain ⟨params, hparams⟩ := hmatch
  refine ⟨⟨routes[i], params⟩, value_firstMatch_eq_some_iff.mpr
    ⟨i, List.getElem?_eq_getElem hi, ?_, fun j hj other hother => ?_, hparams⟩,
    List.getElem?_eq_getElem hi⟩
  · rw [← Route.isSome_paramsFor, hparams]
    rfl
  · obtain ⟨hlt, rfl⟩ := List.getElem?_eq_some_iff.mp hother
    simpa using hbefore j hj

theorem events_resolve (r : Router) (target : String) :
    (r.resolve target).events = r.searchEvents target := by
  rw [resolve, Traced.events_bind, searchEvents]
  cases h : r.routes.findIdx? (·.isMatch (r.normalize target)) with
  | some i =>
    obtain ⟨m, hvalue, hroute⟩ := value_firstMatch_of_findIdx?_eq_some h
    rw [hvalue, events_firstMatch_of_findIdx?_eq_some h]
    simp only [hroute]
    rfl
  | none =>
    have hvalue : (firstMatch (r.normalize target) r.routes).value = none := by
      rw [value_firstMatch_eq_none_iff]
      exact List.findIdx?_eq_none_iff.mp h
    rw [hvalue, events_firstMatch_of_findIdx?_eq_none h]
    rfl

theorem events_dispatch (r : Router) (target : String) :
    (r.dispatch target).events = r.searchEvents target := by
  rw [dispatch, Traced.events_bind, events_resolve]
  cases (r.resolve target).value <;> exact List.append_nil _

/-! ## Declarations -/

theorem registrations_append_singleton {ε : Type} (r : Router) (route : Route) :
    r.registrations (.ok { r with routes := r.routes ++ [route] } : Except ε Router) =
      [route.registration] := by
  simp [registrations]

theorem events_register (r : Router) (m : Mapping) :
    (r.register m).events = r.registrations (r.register m).value := by
  rw [value_register, register]
  cases r.admission m with
  | error e => rfl
  | ok route => exact (r.registrations_append_singleton route).symm

theorem registrations_mapError {ε ε' : Type} (r : Router) (f : ε → ε') (outcome : Except ε Router) :
    r.registrations (outcome.mapError f) = r.registrations outcome := by
  cases outcome <;> rfl

theorem events_declare (r : Router) (m : Mapping) :
    (r.declare m).events = r.registrations (r.declare m).value := by
  rw [value_declare, registrations_mapError, ← events_register, declare, Traced.events_bind]
  cases (r.register m).value <;> exact List.append_nil _

/-- A declaration that is taken adds one route and tells of it, in either form, and one that is
refused tells nothing. -/
theorem told_declaration (r : Router) (m : Mapping) :
    (∃ route, (r.register m).value = .ok { r with routes := r.routes ++ [route] } ∧
        r.told (.register m) = [route.registration] ∧
        r.told (.declare m) = [route.registration]) ∨
      (∃ failure, (r.register m).value = .error failure ∧ r.told (.register m) = [] ∧
        r.told (.declare m) = []) := by
  rw [told, told, value_declare, registrations_mapError, value_register]
  cases r.admission m with
  | ok route => exact .inl ⟨route, rfl, r.registrations_append_singleton route,
      r.registrations_append_singleton route⟩
  | error e => exact .inr ⟨⟨e, r⟩, rfl, rfl, rfl⟩

/-! ## Operations -/

/-- **An operation on a router tells just that.** -/
theorem events_perform (r : Router) (op : Op) : (r.perform op).events = r.told op := by
  cases op with
  | register m => exact (List.append_nil _).trans (r.events_register m)
  | declare m => exact (List.append_nil _).trans (r.events_declare m)
  | resolve target => exact (List.append_nil _).trans (r.events_resolve target)
  | dispatch target => exact (List.append_nil _).trans (r.events_dispatch target)
  | clear | setSubDir | setDefaultController | setDefaultAction | setNotFoundController => rfl

/-- A search tries the routes of an initial segment of the table, each once. It ends with the route
that is found, and is the whole table where none is. -/
theorem probes_resolve (r : Router) (target : String) :
    ∃ tried rest, r.routes = tried ++ rest ∧
      (r.resolve target).events.filter Event.isProbe = tried.map (·.probe (r.normalize target)) ∧
      (∀ m, (r.resolve target).value = some m → tried.getLast? = some m.route) ∧
      ((r.resolve target).value = none → rest = []) := by
  have hprobes (routes : List Route) :
      (routes.map (·.probe (r.normalize target))).filter Event.isProbe =
        routes.map (·.probe (r.normalize target)) := by
    simp [Route.probe, Event.isProbe]
  rw [events_resolve, value_resolve, searchEvents]
  cases h : r.routes.findIdx? (·.isMatch (r.normalize target)) with
  | some i =>
    obtain ⟨m, hvalue, hroute⟩ := value_firstMatch_of_findIdx?_eq_some h
    refine ⟨r.routes.take (i + 1), r.routes.drop (i + 1), (List.take_append_drop _ _).symm,
      ?_, ?_, ?_⟩
    · simp only [hroute, List.filter_append, hprobes]
      simp [Event.isProbe]
    · rw [hvalue]
      rintro _ ⟨⟩
      rw [List.take_add_one, hroute]
      simp
    · rw [hvalue]
      nofun
  | none =>
    have hvalue : (firstMatch (r.normalize target) r.routes).value = none := by
      rw [value_firstMatch_eq_none_iff]
      exact List.findIdx?_eq_none_iff.mp h
    refine ⟨r.routes, [], (List.append_nil _).symm, ?_, ?_, fun _ => rfl⟩
    · simp only [List.filter_append, hprobes]
      simp [Event.isProbe]
    · rw [hvalue]
      nofun

end Router

end PathRouter
