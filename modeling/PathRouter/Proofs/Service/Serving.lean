import PathRouter.Proofs.Dispatch.Correspondence
import PathRouter.Proofs.Service.Target
import PathRouter.Service.Basic

/-!
# Serving, executing and looking up

A service looks up the path of a request's target, a dispatcher of actions the target that it is
given, and both run what they find. `outcomes_of_mapsTo` puts them side by side with a lookup of the
same path in a dispatcher that has handlers under the same identities: they run the handler that the
lookup gives, and they fail with its error. Of the request only the path of its target counts, for
a path is normalized alike with the query behind it (`normalize_path_of_parse?`), with a scheme and
an authority before it, and written out or left empty (`normalize_path`).
-/

namespace PathRouter

variable {H R ε : Type}

/-! ## Paths of targets -/

/-- An empty path is normalized like a slash, wherever the router is mounted. -/
theorem Path.normalize_empty (subDir : String) : normalize "" subDir = normalize "/" subDir := by
  have hempty : unmount subDir.toList [] = [] := by
    unfold unmount
    split <;> simp
  have hslash : unmount subDir.toList ['/'] = ['/'] ∨ unmount subDir.toList ['/'] = [] := by
    unfold unmount
    split
    · cases subDir.toList with
      | nil => exact .inl rfl
      | cons c rest => exact .inr (by simp)
    · exact .inl rfl
  refine congrArg String.ofList ?_
  show ensureSlash (unmount subDir.toList []) = ensureSlash (unmount subDir.toList ['/'])
  rw [hempty]
  rcases hslash with h | h
  · rw [h]
    rfl
  · rw [h]

namespace Uri

theorem normalize_path (u : Uri) (subDir : String) :
    Path.normalize u.path subDir = Path.normalize u.rawPath subDir := by
  rw [path]
  split
  · next h =>
    have hempty : u.rawPath = "" := by simpa using (Bool.and_eq_true_iff.mp h).1
    rw [hempty, Path.normalize_empty]
  · rfl

theorem dropQuery_takeWhile {text : List Char} (h : '#' ∉ text) :
    Path.dropQuery (text.takeWhile continuesPath) = Path.dropQuery text := by
  induction text with
  | nil => rfl
  | cons c text ih =>
    rw [List.mem_cons, not_or] at h
    by_cases hquery : c = '?'
    · rw [hquery]
      rfl
    · have hc : continuesPath c := by simp [continuesPath, hquery, Ne.symm h.1]
      have ih := ih h.2
      unfold Path.dropQuery at ih ⊢
      rw [List.takeWhile_cons_of_pos hc, List.takeWhile_cons_of_pos (by simpa using hquery),
        List.takeWhile_cons_of_pos (by simpa using hquery), ih]

/-- A path is normalized like the target that it begins, with the query that follows. -/
theorem normalize_path_of_parse? {text : String} {u : Uri} (h : parse? text = some u)
    (hslash : text.toList.head? = some '/') (hfragment : '#' ∉ text.toList) (subDir : String) :
    Path.normalize u.path subDir = Path.normalize text subDir := by
  rw [normalize_path, (hasPath_iff_of_parse? h).mp (hasPath_of_slash hslash), Path.normalize,
    Path.normalize, String.toList_ofList, dropQuery_takeWhile hfragment]

end Uri

theorem value_lookup_path {text : String} {u : Uri} {path : List Char}
    (h : Uri.parse? text = some u) (hpath : Uri.HasPath path text.toList) (d : Dispatcher H) :
    (d.lookup u.path).value = (d.lookup (String.ofList path)).value := by
  refine Dispatcher.value_lookup_congr ?_
  rw [Router.normalize, Router.normalize, Uri.normalize_path,
    (Uri.hasPath_iff_of_parse? h).mp hpath]

/-! ## Requests -/

namespace Service

theorem value_call (s : Service ε) (request : Request) :
    (s.call request).value =
      match (s.dispatcher.lookup request.uri.path).value with
      | .ok (handler, params) => (handler request params).mapError .handler
      | .error e => .error (.dispatch e) := by
  rw [call, Traced.value_bind, Traced.value_bind]
  cases (s.dispatcher.lookup request.uri.path).value with
  | error e => rfl
  | ok found =>
    obtain ⟨handler, params⟩ := found
    simp only
    cases handler request params <;> rfl

theorem events_call (s : Service ε) (request : Request) :
    (s.call request).events =
      .incomingRequest request.method request.uri.render ::
        s.dispatcher.lookupEvents request.uri.path := by
  rw [call, Traced.events_bind, Traced.events_bind, Dispatcher.events_lookup]
  refine congrArg (_ :: ·) ?_
  cases (s.dispatcher.lookup request.uri.path).value with
  | error e => exact List.append_nil _
  | ok found =>
    obtain ⟨handler, params⟩ := found
    simp only
    cases handler request params <;> exact List.append_nil _

end Service

/-! ## Other handlers under the same identities -/

theorem Dispatcher.MapsTo.value_call {d : Dispatcher H} {endpoint : H → Endpoint ε} {s : Service ε}
    (h : d.MapsTo endpoint s.dispatcher) (request : Request) :
    (s.call request).value =
      match (d.lookup request.uri.path).value with
      | .ok (handler, params) => (endpoint handler request params).mapError .handler
      | .error e => .error (.dispatch e) := by
  rw [Service.value_call, h.value_lookup]
  cases (d.lookup request.uri.path).value <;> rfl

theorem Dispatcher.MapsTo.value_execute {d : Dispatcher H} {action : H → Params → R}
    {a : Dispatcher (Params → R)} (h : d.MapsTo action a) (target : String) :
    (a.execute target).value =
      match (d.lookup target).value with
      | .ok (handler, params) => .ok (action handler params)
      | .error e => .error e := by
  rw [Dispatcher.value_execute, h.value_lookup]
  cases (d.lookup target).value <;> rfl

/-- **Serving, executing and looking up agree.** Let `a` have actions and `s` endpoints under the
identities under which `d` has handlers. A request runs the handler that a lookup of the path of its
target gives, with its parameters, and without a handler fails with the error of the lookup; so does
a target that is executed. For a target that begins with a slash and has no fragment, the lookup of
its path is that of the whole text. In general it is that of a stretch of the text, and that of a
slash where the stretch is empty, so the handler and the parameters are the same for targets with
the same path, and nothing else of a request plays a part in them. A route that matches and has no
handler leads to an error with its own identity. -/
theorem outcomes_of_mapsTo {d : Dispatcher H} {action : H → Params → R} {endpoint : H → Endpoint ε}
    {a : Dispatcher (Params → R)} {s : Service ε} (ha : d.MapsTo action a)
    (hs : d.MapsTo endpoint s.dispatcher) :
    (∀ request : Request, (s.call request).value =
      match (d.lookup request.uri.path).value with
      | .ok (handler, params) => (endpoint handler request params).mapError .handler
      | .error e => .error (.dispatch e)) ∧
    (∀ target, (a.execute target).value =
      match (d.lookup target).value with
      | .ok (handler, params) => .ok (action handler params)
      | .error e => .error e) ∧
    (∀ text u, Uri.parse? text = some u → text.toList.head? = some '/' → '#' ∉ text.toList →
      (d.lookup u.path).value = (d.lookup text).value) ∧
    (∀ text u, Uri.parse? text = some u → ∃ path, Uri.HasPath path text.toList ∧
      (d.lookup u.path).value = (d.lookup (String.ofList path)).value) ∧
    (d.lookup "").value = (d.lookup "/").value ∧
    (∀ (request request' : Request) text text' path, Uri.parse? text = some request.uri →
      Uri.parse? text' = some request'.uri → Uri.HasPath path text.toList →
      Uri.HasPath path text'.toList →
      (d.lookup request.uri.path).value = (d.lookup request'.uri.path).value) ∧
    (∀ target m, (d.router.resolve target).value = some m → d.bound? m.route.handler = none →
      let e := d.missing m.route.handler
      (d.lookup target).value = .error e ∧ (a.execute target).value = .error e ∧
        ∀ request : Request, request.uri.path = target →
          (s.call request).value = .error (.dispatch e)) := by
  refine ⟨hs.value_call, ha.value_execute, fun text u h hslash hfragment => ?_, fun text u h => ?_,
    ?_, fun request request' text text' path h h' hpath hpath' => ?_, fun target m h hbound => ?_⟩
  · exact Dispatcher.value_lookup_congr (Uri.normalize_path_of_parse? h hslash hfragment _)
  · exact ⟨_, Uri.hasPath_of_parse? h, value_lookup_path h (Uri.hasPath_of_parse? h) d⟩
  · exact Dispatcher.value_lookup_congr (Path.normalize_empty _)
  · rw [value_lookup_path h hpath, value_lookup_path h' hpath']
  · have hlookup : (d.lookup target).value = .error (d.missing m.route.handler) := by
      rw [Dispatcher.value_lookup_of_resolve h, Dispatcher.get_of_bound?_eq_none hbound]
      rfl
    refine ⟨hlookup, ?_, fun request htarget => ?_⟩
    · rw [ha.value_execute, hlookup]
    · rw [hs.value_call, htarget, hlookup]

/-- A target with all of its parts, served by a handler that reads the path. -/
theorem call_ofUserPage :
    let router := (Router.ofConfig {}).after [.register (.toHandler "/user/:id" "Users" "show")]
    let binds : List (DispatcherOp (Params → Option String)) :=
      [.handle ⟨"Users", "show"⟩ (·.get? "id")]
    let respond (action : Params → Option String) : Endpoint Empty :=
      fun _ params => .ok ⟨200, (action params).getD ""⟩
    let s : Service Empty := ⟨(Dispatcher.ofRouter router).after (binds.map (·.map respond))⟩
    let uri : Uri := ⟨some "http", "example.com", "/user/42", some "page=2"⟩
    Uri.parse? "http://example.com/user/42?page=2#top" = some uri ∧
      (s.call ⟨"GET", uri, ""⟩).value = .ok ⟨200, "42"⟩ := by
  intro router binds respond s uri
  have hresolve : (router.resolve uri.path).value.map (fun m => (m.route.handler, m.params)) =
      some (⟨"Users", "show"⟩, .ofList [("id", "42")]) := by
    decide +kernel
  obtain ⟨m, hm, hfound⟩ := Option.map_eq_some_iff.mp hresolve
  obtain ⟨hhandler, hparams⟩ := Prod.mk.inj hfound
  have hlookup : (((Dispatcher.ofRouter router).after binds).lookup uri.path).value =
      .ok ((·.get? "id"), .ofList [("id", "42")]) := by
    -- the table is a hash map, so the binding comes from the run that made it
    have hbound : ((Dispatcher.ofRouter router).after binds).bound? ⟨"Users", "show"⟩ =
        some (·.get? "id") := (tabulates_after_ofRouter router binds).bound? _
    have hrouter : ((Dispatcher.ofRouter router).after binds).router = router := rfl
    rw [Dispatcher.value_lookup_of_resolve (hrouter ▸ hm), hhandler, hparams,
      Dispatcher.get_eq_ok_iff.mpr hbound]
    rfl
  obtain ⟨hcall, -⟩ := outcomes_of_mapsTo (s := s) (mapsTo_after router id binds)
    (mapsTo_after router respond binds)
  refine ⟨by decide +kernel, ?_⟩
  rw [hcall, hlookup]
  rfl

end PathRouter
