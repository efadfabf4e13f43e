import Mathlib.Data.List.Nodup
import PathRouter.Proofs.Router.Run

/-!
# The table of routes after a run

Which routes a router holds is a function of the operations alone: of the declarations since the
last `clear`, each with the settings in force when it was made, those whose expression compiles, and
of these the first with each expression.

* `Ledger` collects the declarations of a run; it never looks at a route.
* `distinct` keeps the first route with each expression. A route behind others
  (`distinct_append_singleton`) is kept just when it brings a new expression, which is how a router
  admits one.
* `tracks_perform` is the step: a router that agrees with a ledger still does after an operation.
* `tracks_after` is the run: the table is the one that the ledger gives. So no expression occurs in
  it twice, and a declaration fails exactly where the ledger drops it.
-/

namespace PathRouter

/-- A declaration with the settings in force when it was made. -/
structure Declaration where
  mapping : Mapping
  config : Config

namespace Declaration

/-- The handler that is declared; what the mapping leaves out is a default of the time. -/
def handler (d : Declaration) : HandlerId := d.mapping.handler d.config

/-- The route that is declared, if the expression of its pattern compiles. -/
def route? (d : Declaration) : Option Route :=
  match Pattern.compile d.mapping.pattern d.mapping.conditions with
  | .ok pattern => some ⟨pattern, d.handler, d.mapping.params, d.mapping.conditions⟩
  | .error _ => none

theorem route?_eq_some_iff {d : Declaration} {route : Route} :
    d.route? = some route ↔
      ∃ pattern, Pattern.compile d.mapping.pattern d.mapping.conditions = .ok pattern ∧
        route = ⟨pattern, d.handler, d.mapping.params, d.mapping.conditions⟩ := by
  unfold route?
  cases Pattern.compile d.mapping.pattern d.mapping.conditions with
  | ok pattern => simp [eq_comm]
  | error e => simp

end Declaration

/-- The first of the routes with each expression, in order. -/
def distinct : List Route → List Route
  | [] => []
  | route :: rest => route :: (distinct rest).filter (·.expression ≠ route.expression)

/-- What a run has declared and set. -/
structure Ledger where
  /-- The settings in force. -/
  config : Config
  /-- The declarations since the last `clear`, in order. -/
  standing : List Declaration

namespace Ledger

/-- Takes down one operation. -/
def record (l : Ledger) : Op → Ledger
  | .register m | .declare m => { l with standing := l.standing ++ [⟨m, l.config⟩] }
  | .clear => { l with standing := [] }
  | .setSubDir subDir => { l with config := { l.config with subDir } }
  | .setDefaultController controller =>
    { l with config := { l.config with defaultController := controller } }
  | .setDefaultAction action => { l with config := { l.config with defaultAction := action } }
  | .setNotFoundController controller =>
    { l with config := { l.config with notFoundController := controller } }
  | .resolve _ | .dispatch _ => l

/-- The ledger of a run that starts with the settings `config`. -/
def ofRun (config : Config) (ops : List Op) : Ledger := ops.foldl record ⟨config, []⟩

/-- The routes that the declarations come to. -/
def routes (l : Ledger) : List Route := distinct (l.standing.filterMap Declaration.route?)

end Ledger

/-! ## Distinct expressions -/

theorem expression_mem_distinct {expression : String} {routes : List Route} :
    expression ∈ (distinct routes).map Route.expression ↔
      expression ∈ routes.map Route.expression := by
  induction routes with
  | nil => rfl
  | cons route rest ih =>
    simp only [distinct, List.map_cons, List.mem_cons, List.mem_map, List.mem_filter,
      decide_eq_true_eq] at ih ⊢
    by_cases h : expression = route.expression
    -- what the filter takes away has the expression of the head
    · simp [h]
    · simp only [h, false_or]
      rw [← ih]
      constructor
      · rintro ⟨r, ⟨hr, -⟩, rfl⟩
        exact ⟨r, hr, rfl⟩
      · rintro ⟨r, hr, rfl⟩
        exact ⟨r, ⟨hr, h⟩, rfl⟩

theorem mem_of_mem_distinct {route : Route} {routes : List Route} (h : route ∈ distinct routes) :
    route ∈ routes := by
  induction routes with
  | nil => cases h
  | cons first rest ih =>
    rcases List.mem_cons.mp h with rfl | h
    · exact List.mem_cons_self
    · exact List.mem_cons_of_mem _ (ih (List.mem_of_mem_filter h))

theorem nodup_distinct (routes : List Route) : ((distinct routes).map Route.expression).Nodup := by
  induction routes with
  | nil => exact List.nodup_nil
  | cons route rest ih =>
    rw [distinct, List.map_cons, List.nodup_cons]
    constructor
    · simp
    · exact ih.sublist (List.filter_sublist.map _)

/-- A route behind others counts just when none of them has its expression. -/
theorem distinct_append_singleton (routes : List Route) (route : Route) :
    distinct (routes ++ [route]) =
      if route.expression ∈ routes.map Route.expression then distinct routes
      else distinct routes ++ [route] := by
  induction routes with
  | nil => rfl
  | cons first rest ih =>
    rw [List.cons_append, distinct, distinct, ih, List.map_cons]
    simp only [List.mem_cons]
    by_cases hrest : route.expression ∈ rest.map Route.expression
    · rw [if_pos hrest, if_pos (Or.inr hrest)]
    · rw [if_neg hrest, List.filter_append]
      by_cases hfirst : route.expression = first.expression
      · -- the head has the expression already, so the filter removes the last route again
        rw [if_pos (Or.inl hfirst)]
        simp [hfirst]
      · rw [if_neg (by simp only [hfirst, hrest, or_self, not_false_eq_true])]
        simp [hfirst]

/-! ## Admission -/

theorem Pattern.source_of_compile {source : String} {conditions : Conditions} {p : Pattern}
    (h : Pattern.compile source conditions = .ok p) : p.source = source := by
  unfold Pattern.compile at h
  split at h
  · rw [← Except.ok.inj h]
  · cases h

namespace Router

/-- Building a mapping gives the route of the declaration, in the settings given. -/
theorem build_eq (m : Mapping) (config : Config) :
    m.build config =
      (Pattern.compile m.pattern m.conditions).map fun pattern =>
        ⟨pattern, (Declaration.mk m config).handler, m.params, m.conditions⟩ := by
  unfold Mapping.build Route.compile
  cases Pattern.compile m.pattern m.conditions with
  | error e => rfl
  | ok pattern => rfl

theorem withExpression?_eq_none {r : Router} {expression : String} :
    r.withExpression? expression = none ↔ expression ∉ r.routes.map Route.expression := by
  simp [withExpression?, List.find?_eq_none]

theorem withExpression?_eq_some {r : Router} (hr : (r.routes.map Route.expression).Nodup)
    {expression : String} {route : Route} :
    r.withExpression? expression = some route ↔
      route ∈ r.routes ∧ route.expression = expression := by
  constructor
  · intro h
    exact ⟨List.mem_of_find?_eq_some h, by simpa using List.find?_some h⟩
  · rintro ⟨hmem, rfl⟩
    cases h : r.withExpression? route.expression with
    | none =>
      exact absurd (List.mem_map_of_mem hmem) (withExpression?_eq_none.mp h)
    | some found =>
      -- the route that is found has the same expression, and there is one such route only
      have hfound : found.expression = route.expression := by simpa using List.find?_some h
      rw [List.inj_on_of_nodup_map hr (List.mem_of_find?_eq_some h) hmem hfound]

/-- A mapping is refused for a conflict exactly where its expression compiles and a route has it. -/
theorem admission_eq_conflict {r : Router} (hr : (r.routes.map Route.expression).Nodup)
    {m : Mapping} {pattern existing : String} :
    r.admission m = .error (.conflict pattern existing) ↔
      ∃ p, Pattern.compile m.pattern m.conditions = .ok p ∧ pattern = m.pattern ∧
        ∃ old ∈ r.routes, old.expression = p.expression ∧ old.source = existing ∧
          ∀ other ∈ r.routes, other.expression = p.expression → other = old := by
  rw [admission, build_eq]
  cases hp : Pattern.compile m.pattern m.conditions with
  | error e => simp [Except.map]
  | ok p =>
    have hsource : p.source = m.pattern := Pattern.source_of_compile hp
    simp only [Except.map, Except.ok.injEq, exists_eq_left', Route.expression, Route.source]
    cases hold : r.withExpression? p.expression with
    | none =>
      have hnone := withExpression?_eq_none.mp hold
      simp only [reduceCtorEq, false_iff, not_and, not_exists]
      intro _ old hmem hexpr
      exact absurd (hexpr ▸ List.mem_map_of_mem hmem) hnone
    | some old =>
      obtain ⟨hmem, hexpr⟩ := (withExpression?_eq_some hr).mp hold
      have honly : ∀ other ∈ r.routes, other.expression = p.expression → other = old :=
        fun other hother h => List.inj_on_of_nodup_map hr hother hmem (h.trans hexpr.symm)
      simp only [Except.error.injEq, RouterError.conflict.injEq]
      constructor
      · rintro ⟨rfl, rfl⟩
        exact ⟨hsource, old, hmem, hexpr, rfl, honly⟩
      · rintro ⟨rfl, other, hother, h, rfl, -⟩
        rw [honly other hother h]
        exact ⟨hsource, rfl⟩

/-- A mapping is taken exactly if it compiles to an expression that no route has. -/
theorem admission_eq_ok_iff {r : Router} {m : Mapping} {route : Route} :
    r.admission m = .ok route ↔
      (Declaration.mk m r.config).route? = some route ∧
        route.expression ∉ r.routes.map Route.expression := by
  rw [admission, build_eq]
  unfold Declaration.route?
  cases Pattern.compile m.pattern m.conditions with
  | error e => simp [Except.map]
  | ok p =>
    simp only [Except.map, Option.some.injEq]
    generalize Route.mk p (Declaration.mk m r.config).handler m.params m.conditions = built
    cases hold : r.withExpression? built.expression with
    | none =>
      have hnone := withExpression?_eq_none.mp hold
      simp only [Except.ok.injEq]
      exact ⟨fun h => ⟨h, h ▸ hnone⟩, fun h => h.1⟩
    | some old =>
      simp only [reduceCtorEq, false_iff, not_and, not_not]
      rintro rfl
      by_contra h
      rw [withExpression?_eq_none.mpr h] at hold
      cases hold

theorem value_register_eq_ok_iff {r r' : Router} {m : Mapping} :
    (r.register m).value = .ok r' ↔
      ∃ route, (Declaration.mk m r.config).route? = some route ∧
        route.expression ∉ r.routes.map Route.expression ∧
        r' = { r with routes := r.routes ++ [route] } := by
  simp only [← and_assoc, ← admission_eq_ok_iff]
  rw [value_register]
  cases r.admission m with
  | error e => simp
  | ok route => simp [eq_comm]

end Router

/-! ## The step and the run -/

/-- The router holds the settings and the routes that the ledger gives. -/
structure Tracks (r : Router) (l : Ledger) : Prop where
  config : r.config = l.config
  routes : r.routes = l.routes

theorem tracks_ofConfig (config : Config) : Tracks (.ofConfig config) ⟨config, []⟩ := ⟨rfl, rfl⟩

theorem Tracks.nodup_expressions {r : Router} {l : Ledger} (h : Tracks r l) :
    (r.routes.map Route.expression).Nodup := by
  rw [h.routes]
  exact nodup_distinct _

/-- How a ledger takes a declaration: not at all if its expression does not compile or is there
already, and else behind the others. -/
theorem Ledger.routes_record_register (l : Ledger) (m : Mapping) :
    (l.record (.register m)).routes =
      match (Declaration.mk m l.config).route? with
      | none => l.routes
      | some route =>
        if route.expression ∈ l.routes.map Route.expression then l.routes
        else l.routes ++ [route] := by
  simp only [routes, record, List.filterMap_append]
  cases h : (Declaration.mk m l.config).route? with
  | none => simp [h]
  | some route =>
    rw [show [Declaration.mk m l.config].filterMap Declaration.route? = [route] by simp [h],
      distinct_append_singleton]
    simp only [expression_mem_distinct]

/-- A router takes it in the same way. -/
theorem Router.after_register_eq (r : Router) (m : Mapping) :
    r.after [.register m] =
      match (Declaration.mk m r.config).route? with
      | none => r
      | some route =>
        if route.expression ∈ r.routes.map Route.expression then r
        else { r with routes := r.routes ++ [route] } := by
  rw [after_register]
  cases hregister : (r.register m).value with
  | ok r' =>
    obtain ⟨route, hroute, hnot, rfl⟩ := value_register_eq_ok_iff.mp hregister
    rw [hroute]
    exact (if_neg hnot).symm
  | error failure =>
    rw [left, router_of_register_eq_error hregister]
    -- it has not been taken, so it does not compile or has an expression that is there
    cases hroute : (Declaration.mk m r.config).route? with
    | none => rfl
    | some route =>
      by_cases hmem : route.expression ∈ r.routes.map Route.expression
      · exact (if_pos hmem).symm
      · rw [value_register_eq_ok_iff.mpr ⟨route, hroute, hmem, rfl⟩] at hregister
        cases hregister

theorem Tracks.register {r : Router} {l : Ledger} (h : Tracks r l) (m : Mapping) :
    Tracks (r.after [.register m]) (l.record (.register m)) := by
  have hroutes := l.routes_record_register m
  rw [← h.config, ← h.routes] at hroutes
  rw [r.after_register_eq m]
  cases hroute : (Declaration.mk m r.config).route? with
  | none =>
    rw [hroute] at hroutes
    exact ⟨h.config, hroutes.symm⟩
  | some route =>
    rw [hroute] at hroutes
    by_cases hmem : route.expression ∈ r.routes.map Route.expression
    · simp only [if_pos hmem] at hroutes ⊢
      exact ⟨h.config, hroutes.symm⟩
    · simp only [if_neg hmem] at hroutes ⊢
      exact ⟨h.config, hroutes.symm⟩

/-- **The step.** A router that agrees with a ledger still does after any operation. -/
theorem tracks_perform {r : Router} {l : Ledger} (h : Tracks r l) (op : Op) :
    Tracks (r.after [op]) (l.record op) := by
  cases op with
  | register m => exact h.register m
  | declare m =>
    rw [Router.after_declare]
    exact h.register m
  | clear => exact ⟨h.config, rfl⟩
  | setSubDir subDir => exact ⟨congrArg (fun c => { c with subDir }) h.config, h.routes⟩
  | setDefaultController controller =>
    exact ⟨congrArg (fun c => { c with defaultController := controller }) h.config, h.routes⟩
  | setDefaultAction action =>
    exact ⟨congrArg (fun c => { c with defaultAction := action }) h.config, h.routes⟩
  | setNotFoundController controller =>
    exact ⟨congrArg (fun c => { c with notFoundController := controller }) h.config, h.routes⟩
  | resolve target => exact h
  | dispatch target => exact h

/-- **The run.** Whatever has been done to a router, it agrees with the ledger of that. -/
theorem tracks_after (config : Config) (ops : List Op) :
    Tracks ((Router.ofConfig config).after ops) (.ofRun config ops) := by
  have hrun : ∀ (ops : List Op) (r : Router) (l : Ledger), Tracks r l →
      Tracks (r.after ops) (ops.foldl Ledger.record l) := by
    intro ops
    induction ops with
    | nil => exact fun r l h => h
    | cons op ops ih => exact fun r l h => ih _ _ (tracks_perform h op)
  exact hrun ops _ _ (tracks_ofConfig config)

end PathRouter
