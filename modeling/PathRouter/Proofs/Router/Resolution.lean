import PathRouter.Proofs.Router.Registry

/-!
# Which route a target leads to

A router scans its routes in order, asks each for the parameters of the path and stops at the first
that has some. A route has parameters for just the paths that it matches (`Route.isSome_paramsFor`),
so the scan finds the first route that matches (`value_firstMatch`), and the settings count only
where a path is normalized and where no route matches. `resolve_dispatch_after` puts this together
for every router that operations lead to.
-/

namespace PathRouter

/-! ## The first match -/

namespace Route

theorem isSome_paramsFor (route : Route) (path : String) :
    (route.paramsFor path).isSome = route.isMatch path := by
  show (((route.pattern.regex.find? path.toList).map _).map _).isSome = _
  rw [Option.isSome_map, Option.isSome_map]
  rfl

theorem paramsFor_eq_none_iff {route : Route} {path : String} :
    route.paramsFor path = none ↔ route.isMatch path = false := by
  rw [← isSome_paramsFor, Option.isSome_eq_false_iff, Option.isNone_iff_eq_none]

end Route

namespace Router

/-- What a scan finds in a route. -/
def matchOf (path : String) (route : Route) : Option Resolved :=
  (route.paramsFor path).map fun params => ⟨route, params⟩

theorem matchOf_eq_none_iff {path : String} {route : Route} :
    matchOf path route = none ↔ route.isMatch path = false := by
  rw [matchOf, Option.map_eq_none_iff, Route.paramsFor_eq_none_iff]

theorem matchOf_eq_some_iff {path : String} {route : Route} {m : Resolved} :
    matchOf path route = some m ↔ m.route = route ∧ route.paramsFor path = some m.params := by
  obtain ⟨route', params⟩ := m
  simp only [matchOf, Option.map_eq_some_iff, Resolved.mk.injEq]
  constructor
  · rintro ⟨_, hparams, rfl, rfl⟩
    exact ⟨rfl, hparams⟩
  · rintro ⟨rfl, hparams⟩
    exact ⟨params, hparams, rfl, rfl⟩

/-- **The scan.** -/
theorem value_firstMatch (path : String) (routes : List Route) :
    (firstMatch path routes).value = routes.findSome? (matchOf path) := by
  induction routes with
  | nil => rfl
  | cons route rest ih =>
    rw [firstMatch, Traced.value_bind, List.findSome?_cons, matchOf]
    cases route.paramsFor path with
    | none => exact ih
    | some params => rfl

theorem value_firstMatch_eq_none_iff {path : String} {routes : List Route} :
    (firstMatch path routes).value = none ↔ ∀ route ∈ routes, route.isMatch path = false := by
  rw [value_firstMatch, List.findSome?_eq_none_iff]
  exact forall₂_congr fun _ _ => matchOf_eq_none_iff

/-- The first match is that of the first route that matches. -/
theorem value_firstMatch_append {path : String} {before later : List Route} {route : Route}
    {params : Params} (hbefore : ∀ other ∈ before, other.isMatch path = false)
    (hparams : route.paramsFor path = some params) :
    (firstMatch path (before ++ route :: later)).value = some ⟨route, params⟩ := by
  have hnone : before.findSome? (matchOf path) = none := by
    rw [← value_firstMatch, value_firstMatch_eq_none_iff]
    exact hbefore
  have hfound : matchOf path route = some ⟨route, params⟩ :=
    matchOf_eq_some_iff.mpr ⟨rfl, hparams⟩
  rw [value_firstMatch, List.findSome?_append, hnone, Option.none_or, List.findSome?_cons, hfound]

/-- The same by the place of the route among all. -/
theorem value_firstMatch_eq_some_iff {path : String} {routes : List Route} {m : Resolved} :
    (firstMatch path routes).value = some m ↔
      ∃ i : Nat, routes[i]? = some m.route ∧ m.route.isMatch path ∧
        (∀ j < i, ∀ other, routes[j]? = some other → other.isMatch path = false) ∧
        m.route.paramsFor path = some m.params := by
  constructor
  · intro h
    rw [value_firstMatch, List.findSome?_eq_some_iff] at h
    obtain ⟨before, route, later, rfl, hfound, hbefore⟩ := h
    obtain ⟨rfl, hparams⟩ := matchOf_eq_some_iff.mp hfound
    refine ⟨before.length, by simp, ?_, fun j hj other hother => ?_, hparams⟩
    · rw [← Route.isSome_paramsFor, hparams]
      rfl
    · rw [List.getElem?_append_left hj] at hother
      exact matchOf_eq_none_iff.mp (hbefore other (List.mem_of_getElem? hother))
  · rintro ⟨i, hroute, -, hbefore, hparams⟩
    obtain ⟨hi, hget⟩ := List.getElem?_eq_some_iff.mp hroute
    rw [← List.take_append_drop i routes, List.drop_eq_getElem_cons hi, hget]
    refine value_firstMatch_append (fun other hother => ?_) hparams
    obtain ⟨j, hj⟩ := List.mem_iff_getElem?.mp hother
    rw [List.getElem?_take] at hj
    split at hj
    · next hlt => exact hbefore j hlt other hj
    · cases hj

/-! ## Resolving and dispatching -/

theorem value_resolve (r : Router) (target : String) :
    (r.resolve target).value = (firstMatch (r.normalize target) r.routes).value := by
  rw [resolve, Traced.value_bind]
  cases (firstMatch (r.normalize target) r.routes).value <;> rfl

theorem value_dispatch (r : Router) (target : String) :
    (r.dispatch target).value =
      match (r.resolve target).value with
      | some m => .ofResolved m
      | none => .fallback r.notFoundHandler := by
  rw [dispatch, Traced.value_bind]
  cases (r.resolve target).value <;> rfl

end Router

/-- Whether an operation only asks for a path. -/
def Op.isQuery : Op → Bool
  | .resolve _ | .dispatch _ => true
  | _ => false

/-- A run leads to the same router without the questions in it. -/
theorem Router.after_filter_not_isQuery (r : Router) (ops : List Op) :
    r.after (ops.filter fun op => !op.isQuery) = r.after ops := by
  induction ops generalizing r with
  | nil => rfl
  | cons op ops ih =>
    cases op with
    | resolve | dispatch => exact ih r
    | register | declare | clear | setSubDir | setDefaultController | setDefaultAction
    | setNotFoundController => exact ih _

/-- **What a router answers.** Of the routes that match the normalized path it resolves to the
first, with the parameters of that route, and to nothing if there is none; it dispatches to that
route's handler or, in the settings of the moment, to the one for paths that no route matches.
Asking changes nothing, however often it is done. -/
theorem resolve_dispatch_after (config : Config) (ops : List Op) (target : String) :
    let r := (Router.ofConfig config).after ops
    let settings := (Ledger.ofRun config ops).config
    let path := Path.normalize target settings.subDir
    (∀ route ∈ r.routes, (route.paramsFor path).isSome = route.isMatch path) ∧
      ((r.resolve target).value = none ↔ ∀ route ∈ r.routes, route.isMatch path = false) ∧
      (∀ m, (r.resolve target).value = some m ↔
        ∃ i : Nat, r.routes[i]? = some m.route ∧ m.route.isMatch path ∧
          (∀ j < i, ∀ other, r.routes[j]? = some other → other.isMatch path = false) ∧
          m.route.paramsFor path = some m.params) ∧
      (∀ m, (r.resolve target).value = some m →
        (r.dispatch target).value = ⟨m.route.handler, m.params, some m.route⟩) ∧
      ((r.resolve target).value = none →
        (r.dispatch target).value =
          ⟨⟨settings.notFoundController, settings.defaultAction⟩, .empty, none⟩) ∧
      ((r.dispatch target).value.isFallback ↔ (r.resolve target).value = none) ∧
      r.after [.resolve target] = r ∧ r.after [.dispatch target] = r ∧
      (Router.ofConfig config).after (ops.filter fun op => !op.isQuery) = r := by
  intro r settings path
  have hconfig : r.config = settings := (tracks_after config ops).config
  have hpath : r.normalize target = path := by rw [Router.normalize, hconfig]
  have hresolve := r.value_resolve target
  have hdispatch := r.value_dispatch target
  rw [hpath] at hresolve
  refine ⟨fun route _ => route.isSome_paramsFor path, ?_, fun m => ?_, fun m hm => ?_,
    fun hnone => ?_, ?_, rfl, rfl, Router.after_filter_not_isQuery _ ops⟩
  · rw [hresolve]
    exact Router.value_firstMatch_eq_none_iff
  · rw [hresolve]
    exact Router.value_firstMatch_eq_some_iff
  · rw [hdispatch, hm]
    rfl
  · rw [hdispatch, hnone, ← hconfig]
    rfl
  · rw [hdispatch]
    cases (r.resolve target).value <;>
      simp [Dispatch.isFallback, Dispatch.ofResolved, Dispatch.fallback]

end PathRouter
