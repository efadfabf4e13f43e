import PathRouter.Proofs.Router.Resolution

/-!
# The order of declarations

Whether a router takes all of some declarations does not depend on their order: it takes them if
each compiles and no two have one expression (`registerAll_eq_ok_iff`), and then its routes are
those of the declarations, one behind the other. What the order does decide is which of several
matching routes comes first, and nothing else does: a scan skips the routes that do not match
(`value_firstMatch_filter`), and the matching routes of two tables with the same routes are one list
if any two of them stand in the same order (`SameOrder.filter_eq`).
-/

namespace PathRouter

/-- Of any two routes that match `path`, the one that stands first in `routes` stands first in
`routes'`, too. -/
def SameOrder (path : String) (routes routes' : List Route) : Prop :=
  ∀ a b : Route, a.isMatch path → b.isMatch path →
    [a, b].Sublist routes → [a, b].Sublist routes'

namespace Router

/-- Registers the mappings one after the other, up to the first that is refused. -/
def registerAll (r : Router) : List Mapping → Except (Failure RouterError) Router
  | [] => .ok r
  | m :: ms =>
    match (r.register m).value with
    | .error failure => .error failure
    | .ok r' => r'.registerAll ms

/-! ## Declaring several routes -/

/-- The routes that mappings declare in the given settings. -/
def declaredRoutes (config : Config) (ms : List Mapping) : List Route :=
  ms.filterMap fun m => (Declaration.mk m config).route?

theorem declaredRoutes_cons {config : Config} {m : Mapping} {route : Route} {ms : List Mapping}
    (h : (Declaration.mk m config).route? = some route) :
    declaredRoutes config (m :: ms) = route :: declaredRoutes config ms :=
  List.filterMap_cons_some h

/-- **Several mappings are taken exactly if each compiles and all expressions differ.** -/
theorem registerAll_eq_ok_iff {r r' : Router} {ms : List Mapping}
    (hr : (r.routes.map Route.expression).Nodup) :
    r.registerAll ms = .ok r' ↔
      (∀ m ∈ ms, (Declaration.mk m r.config).route?.isSome) ∧
        ((r.routes ++ declaredRoutes r.config ms).map Route.expression).Nodup ∧
        r' = { r with routes := r.routes ++ declaredRoutes r.config ms } := by
  induction ms generalizing r with
  | nil =>
    have hnone : declaredRoutes r.config [] = [] := rfl
    rw [hnone, List.append_nil, registerAll]
    simp only [List.not_mem_nil, false_imp_iff, implies_true, true_and, hr, Except.ok.injEq]
    exact eq_comm
  | cons m ms ih =>
    cases hregister : (r.register m).value with
    | error failure =>
      -- the mapping is refused, so it does not compile or has an expression that is there
      simp only [registerAll, hregister, reduceCtorEq, false_iff]
      rintro ⟨hsome, hnodup, -⟩
      obtain ⟨route, hroute⟩ := Option.isSome_iff_exists.mp (hsome m List.mem_cons_self)
      rw [declaredRoutes_cons hroute, List.map_append, List.nodup_append] at hnodup
      have hnot : route.expression ∉ r.routes.map Route.expression :=
        fun hmem => hnodup.2.2 _ hmem _ (by simp) rfl
      rw [value_register_eq_ok_iff.mpr ⟨route, hroute, hnot, rfl⟩] at hregister
      cases hregister
    | ok next =>
      obtain ⟨route, hroute, hnot, rfl⟩ := value_register_eq_ok_iff.mp hregister
      have hnext : ((r.routes ++ [route]).map Route.expression).Nodup := by
        rw [List.map_append, List.nodup_append]
        refine ⟨hr, List.nodup_singleton _, fun e he e' he' h => hnot ?_⟩
        rw [← List.mem_singleton.mp he', ← h]
        exact he
      simp only [registerAll, hregister]
      rw [ih (r := { r with routes := r.routes ++ [route] }) hnext, declaredRoutes_cons hroute]
      simp only [List.forall_mem_cons, hroute, Option.isSome_some, true_and, List.append_assoc,
        List.singleton_append]

theorem registerAll_ofConfig_eq_ok_iff {config : Config} {r : Router} {ms : List Mapping} :
    (ofConfig config).registerAll ms = .ok r ↔
      (∀ m ∈ ms, (Declaration.mk m config).route?.isSome) ∧
        ((declaredRoutes config ms).map Route.expression).Nodup ∧
        r = ⟨declaredRoutes config ms, config⟩ :=
  registerAll_eq_ok_iff (r := ofConfig config) List.nodup_nil

/-! ## Scans of matching routes -/

/-- A scan passes over routes that do not match. -/
theorem value_firstMatch_filter (path : String) (routes : List Route) :
    (firstMatch path (routes.filter (·.isMatch path))).value = (firstMatch path routes).value := by
  simp only [value_firstMatch]
  induction routes with
  | nil => rfl
  | cons route rest ih =>
    cases hmatch : route.isMatch path with
    | false =>
      rw [List.filter_cons_of_neg (by simp [hmatch]), ih, List.findSome?_cons,
        matchOf_eq_none_iff.mpr hmatch]
    | true =>
      rw [List.filter_cons_of_pos (by simpa using hmatch), List.findSome?_cons,
        List.findSome?_cons, ih]

/-- Routers with the same settings answer a target alike if their matching routes are one list. -/
theorem answers_eq_of_filter_eq {r r' : Router} (hconfig : r'.config = r.config) {target : String}
    (h : r'.routes.filter (·.isMatch (r.normalize target)) =
      r.routes.filter (·.isMatch (r.normalize target))) :
    (r'.resolve target).value = (r.resolve target).value ∧
      (r'.dispatch target).value = (r.dispatch target).value := by
  have hnormalize : r'.normalize target = r.normalize target := by
    rw [normalize, normalize, hconfig]
  have hresolve : (r'.resolve target).value = (r.resolve target).value := by
    rw [value_resolve, value_resolve, hnormalize, ← value_firstMatch_filter, h,
      value_firstMatch_filter]
  refine ⟨hresolve, ?_⟩
  rw [value_dispatch, value_dispatch, hresolve, notFoundHandler, notFoundHandler, hconfig]

end Router

/-! ## Order among matching routes -/

/-- In a list without repetition, of two members only one stands before the other. -/
theorem not_sublist_swap {α : Type} {l : List α} (hl : l.Nodup) {a b : α}
    (h : [a, b].Sublist l) : ¬ [b, a].Sublist l := by
  intro h'
  induction l with
  | nil => cases h
  | cons x l ih =>
    obtain ⟨hx, hl⟩ := List.nodup_cons.mp hl
    cases h with
    | cons _ h =>
      cases h' with
      | cons _ h' => exact ih hl h h'
      | cons_cons _ _ => exact hx (h.subset (by simp))
    | cons_cons _ h =>
      cases h' with
      | cons _ h' => exact hx (h'.subset (by simp))
      | cons_cons _ _ => exact hx (h.subset (by simp))

theorem sameOrder_of_filter_eq {path : String} {routes routes' : List Route}
    (h : routes.filter (·.isMatch path) = routes'.filter (·.isMatch path)) :
    SameOrder path routes routes' := by
  intro a b ha hb hab
  have hfilter := hab.filter (·.isMatch path)
  rw [h, List.filter_eq_self.mpr (by simp [ha, hb])] at hfilter
  exact hfilter.trans List.filter_sublist

/-- Matching routes that any two stand alike are one list. -/
theorem SameOrder.filter_eq {path : String} {routes routes' : List Route}
    (h : SameOrder path routes routes') (hperm : routes'.Perm routes) (hnodup : routes.Nodup) :
    routes'.filter (·.isMatch path) = routes.filter (·.isMatch path) := by
  have hnodup' : routes'.Nodup := hperm.nodup_iff.mpr hnodup
  have hpairs' : (routes'.filter (·.isMatch path)).Pairwise fun a b => [a, b].Sublist routes' :=
    List.pairwise_iff_forall_sublist.mpr fun hab => hab.trans List.filter_sublist
  have hpairs : (routes.filter (·.isMatch path)).Pairwise fun a b => [a, b].Sublist routes' := by
    refine List.pairwise_iff_forall_sublist.mpr fun {a b} hab => h a b ?_ ?_
      (hab.trans List.filter_sublist)
    · exact (List.mem_filter.mp (hab.subset List.mem_cons_self)).2
    · exact (List.mem_filter.mp (hab.subset (List.mem_cons_of_mem a (List.mem_singleton_self b)))).2
  exact List.Perm.eq_of_pairwise
    (fun a b _ _ hab hba => absurd hba (not_sublist_swap hnodup' hab)) hpairs' hpairs
    (hperm.filter _)

/-- Where at most one route matches, there is no order to keep. -/
theorem sameOrder_of_countP_le_one {path : String} {routes routes' : List Route}
    (h : routes.countP (·.isMatch path) ≤ 1) : SameOrder path routes routes' := by
  intro a b ha hb hab
  have htwo : [a, b].countP (·.isMatch path) = 2 := by simp [ha, hb]
  have hle := hab.countP_le (p := (·.isMatch path))
  omega

/-! ## Declarations in another order -/

/-- **The order of declarations matters between routes that match the same path, and only there.**
Mappings that a router without routes takes one after the other, it takes in any other order, too.
The two tables have the same routes, and a target gets the same answer from both (the same route
with its source and handler, and the same parameters) if the routes that match its path stand in
the same order in both, and so in particular if at most one matches. -/
theorem answers_of_perm {config : Config} {ms ms' : List Mapping} {r : Router}
    (hr : (Router.ofConfig config).registerAll ms = .ok r) (hperm : ms.Perm ms') :
    ∃ r', (Router.ofConfig config).registerAll ms' = .ok r' ∧ r'.routes.Perm r.routes ∧
      r'.config = r.config ∧ ∀ target,
        let path := Path.normalize target config.subDir
        SameOrder path r.routes r'.routes ∨ r.routes.countP (·.isMatch path) ≤ 1 →
          (r'.resolve target).value = (r.resolve target).value ∧
            (r'.dispatch target).value = (r.dispatch target).value := by
  obtain ⟨hsome, hnodup, rfl⟩ := Router.registerAll_ofConfig_eq_ok_iff.mp hr
  have hroutes : (Router.declaredRoutes config ms').Perm (Router.declaredRoutes config ms) :=
    (hperm.filterMap _).symm
  have hr' : (Router.ofConfig config).registerAll ms' =
      .ok ⟨Router.declaredRoutes config ms', config⟩ := by
    refine Router.registerAll_ofConfig_eq_ok_iff.mpr ⟨fun m hm => ?_, ?_, rfl⟩
    · exact hsome m (hperm.mem_iff.mpr hm)
    · exact (hroutes.map Route.expression).nodup_iff.mpr hnodup
  refine ⟨_, hr', hroutes, rfl, ?_⟩
  intro target path horder
  have hsame : SameOrder path (Router.declaredRoutes config ms)
      (Router.declaredRoutes config ms') :=
    horder.elim id sameOrder_of_countP_le_one
  refine Router.answers_eq_of_filter_eq ?_ ?_
  · rfl
  · exact hsame.filter_eq hroutes (.of_map _ hnodup)

/-- A route that does not match may stand anywhere: here the last of three comes first, and the
other two match the path. -/
theorem resolve_ofReordered :
    let users := Mapping.toHandler "/a/:id" "Users" "show"
    let lists := Mapping.toHandler "/:list/b" "Lists" "index"
    let about := Mapping.toHandler "/about" "Pages" "about"
    ∃ r r' : Router, (Router.ofConfig {}).registerAll [users, lists, about] = .ok r ∧
      (Router.ofConfig {}).registerAll [about, users, lists] = .ok r' ∧
      r.routes.countP (·.isMatch "/a/b") = 2 ∧
      (r'.resolve "/a/b").value = (r.resolve "/a/b").value ∧
      (r.resolve "/a/b").value.map (·.handler) = some ⟨"Users", "show"⟩ := by
  intro users lists about
  have hfound : ((Router.ofConfig {}).registerAll [users, lists, about]).toOption.map
      (fun r => (r.routes.countP (·.isMatch "/a/b"), (r.resolve "/a/b").value.map (·.handler))) =
      some (2, some ⟨"Users", "show"⟩) := by
    decide +kernel
  have hmiss : (Router.declaredRoutes {} [about]).all (!·.isMatch "/a/b") := by
    decide +kernel
  cases hr : (Router.ofConfig {}).registerAll [users, lists, about] with
  | error e =>
    rw [hr] at hfound
    cases hfound
  | ok r =>
    rw [hr] at hfound
    obtain ⟨hcount, hhandler⟩ := Prod.mk.inj (Option.some.inj hfound)
    have hperm : [users, lists, about].Perm [about, users, lists] :=
      show ([users, lists] ++ [about]).Perm ([about] ++ [users, lists]) from List.perm_append_comm
    obtain ⟨r', hr', -, -, hanswers⟩ := answers_of_perm hr hperm
    refine ⟨r, r', rfl, hr', hcount, (hanswers "/a/b" (.inl ?_)).1, hhandler⟩
    -- the two tables are the routes of the first two mappings with that of the last behind them or
    -- before them, and that one does not match
    obtain ⟨-, -, rfl⟩ := Router.registerAll_ofConfig_eq_ok_iff.mp hr
    obtain ⟨-, -, rfl⟩ := Router.registerAll_ofConfig_eq_ok_iff.mp hr'
    refine sameOrder_of_filter_eq ?_
    have hnone : (Router.declaredRoutes {} [about]).filter (·.isMatch "/a/b") = [] := by
      simpa [List.filter_eq_nil_iff] using hmiss
    have hlast : Router.declaredRoutes {} [users, lists, about] =
        Router.declaredRoutes {} [users, lists] ++ Router.declaredRoutes {} [about] :=
      List.filterMap_append (l := [users, lists])
    have hfirst : Router.declaredRoutes {} [about, users, lists] =
        Router.declaredRoutes {} [about] ++ Router.declaredRoutes {} [users, lists] :=
      List.filterMap_append (l := [about])
    have hpath : Path.normalize "/a/b" (Config.subDir {}) = "/a/b" := by decide
    rw [hlast, hfirst, hpath, List.filter_append, List.filter_append, hnone, List.append_nil,
      List.nil_append]

end PathRouter
