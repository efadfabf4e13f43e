import PathRouter.Proofs.Dispatch.Lookup
import PathRouter.Proofs.Path

/-!
# Queries and directories are transparent

All that a router or a dispatcher does with a target it does with its normal path. So two targets
get the same answer wherever they have the same normal path (`answersAlike_of_normalize`), be it
that the routers are mounted in different directories. Two cases of this make up
`answers_of_withQuery`: targets that differ in their query, and a target below a directory with what
is left of it without that directory. A third is `answers_of_sibling`: a directory is whatever a
path starts with, so that a router answers for the siblings of its directory, unless the directory
ends in a slash.
-/

namespace PathRouter

namespace Router

/-- The router `r` answers `target` as `r'` answers `target'`: it matches the same path, leads to
the same route with the same parameters, and tells the same on the way. In a dispatcher the two lead
to the same handler and to the same result of running it, whatever handlers there are. -/
structure AnswersAlike (r : Router) (target : String) (r' : Router) (target' : String) : Prop where
  normalize : r.normalize target = r'.normalize target'
  resolve : r.resolve target = r'.resolve target'
  dispatch : r.dispatch target = r'.dispatch target'
  lookup : ∀ {H : Type} (d : Dispatcher H),
    ((d.withRouter r).lookup target).value = ((d.withRouter r').lookup target').value
  execute : ∀ {R : Type} (d : Dispatcher (Params → R)),
    ((d.withRouter r).execute target).value = ((d.withRouter r').execute target').value

section SamePath

variable {r r' : Router} {target target' : String}

theorem resolve_congr (hroutes : r.routes = r'.routes)
    (h : r.normalize target = r'.normalize target') : r.resolve target = r'.resolve target' := by
  unfold resolve size
  rw [hroutes, h]

theorem dispatch_congr (hroutes : r.routes = r'.routes)
    (hfallback : r.notFoundHandler = r'.notFoundHandler)
    (h : r.normalize target = r'.normalize target') : r.dispatch target = r'.dispatch target' := by
  unfold dispatch
  rw [resolve_congr hroutes h, hfallback]

/-- The normal path is all of a target that counts. -/
theorem answersAlike_of_normalize (hroutes : r.routes = r'.routes)
    (hfallback : r.notFoundHandler = r'.notFoundHandler)
    (h : r.normalize target = r'.normalize target') : r.AnswersAlike target r' target' := by
  have hdispatch : r.dispatch target = r'.dispatch target' := dispatch_congr hroutes hfallback h
  have hlookup {H : Type} (d : Dispatcher H) :
      ((d.withRouter r).lookup target).value = ((d.withRouter r').lookup target').value := by
    rw [Dispatcher.value_lookup, Dispatcher.value_lookup]
    -- on both sides the handler comes from the table of `d`
    show (d.get (r.dispatch target).value.handler).map
        (fun handler => (handler, (r.dispatch target).value.params)) =
      (d.get (r'.dispatch target').value.handler).map
        (fun handler => (handler, (r'.dispatch target').value.params))
    rw [hdispatch]
  refine ⟨h, resolve_congr hroutes h, hdispatch, hlookup, fun d => ?_⟩
  rw [Dispatcher.value_execute, Dispatcher.value_execute, hlookup]

end SamePath

/-- A router answers as it would without its directory if the path comes out the same. -/
theorem answersAlike_setSubDir {r : Router} {target target' : String}
    (h : r.normalize target = Path.normalize target' "") :
    r.AnswersAlike target (r.setSubDir "") target' :=
  answersAlike_of_normalize rfl rfl h

end Router

/-- **Queries and directories are transparent.** A target is a path, maybe with a query behind it.
The router matches a path with a slash in front and no question mark. Whatever the query is, and
without one, the answer is the same. Where the path is the directory of the router and a rest, the
answer is that of the router without a directory to the rest; where it does not start with the
directory, it is that of the router without a directory to the target itself. A path that has been
normalized without a directory stays as it is. -/
theorem answers_of_withQuery (r : Router) (target : String) :
    ∃ path query, '?' ∉ path ∧ target = Path.withQuery path query ∧
      (∃ rest, r.normalize target = String.ofList ('/' :: rest) ∧ '?' ∉ rest) ∧
      (∀ query', r.AnswersAlike target r (Path.withQuery path query')) ∧
      (∀ rest, path = r.config.subDir.toList ++ rest →
        r.AnswersAlike target (r.setSubDir "") (String.ofList rest)) ∧
      (¬ r.config.subDir.toList <+: path → r.AnswersAlike target (r.setSubDir "") target) ∧
      (r.setSubDir "").normalize ((r.setSubDir "").normalize target) =
        (r.setSubDir "").normalize target := by
  obtain ⟨path, query, hpath, rfl⟩ := Path.exists_eq_withQuery target
  have hnormalize (query' : Option (List Char)) : r.normalize (Path.withQuery path query') =
      String.ofList (Path.ensureSlash (Path.unmount r.config.subDir.toList path)) :=
    Path.normalize_withQuery hpath query' _
  refine ⟨path, query, hpath, rfl, Path.exists_normalize_eq _ _, fun query' => ?_,
    fun rest hrest => ?_, fun hstarts => ?_, Path.normalize_normalize _⟩
  · refine Router.answersAlike_of_normalize rfl rfl ?_
    rw [hnormalize, hnormalize]
  · refine Router.answersAlike_setSubDir ?_
    have hmark : '?' ∉ rest := fun hmem => hpath (hrest ▸ List.mem_append_right _ hmem)
    rw [hnormalize, hrest, Path.unmount_append, Path.normalize_ofList hmark]
    rfl
  · refine Router.answersAlike_setSubDir ?_
    rw [hnormalize, Path.unmount_of_not_prefix hstarts, Path.normalize_withQuery hpath]
    rfl

/-- The directory is looked for in the path only, and once. -/
example : Path.normalize "/app/app/u?x=/app" "/app" = "/app/u" := by decide +kernel

/-- **A directory is whatever a path starts with.** Let the directory of a router not end in a
slash, and the path of a target start with the directory but not go on with a slash. The target does
not lie below the directory. All the same the router takes the directory away, so that the path
comes out as another one, and answers what the router without a directory answers to the rest. With
a slash at its end the directory is left alone, and the target is answered as it is. -/
theorem answers_of_sibling (r : Router) {target : String} {rest : List Char}
    (hsubDir : r.config.subDir.toList ≠ []) (hend : r.config.subDir.toList.getLast? ≠ some '/')
    (htarget : Path.dropQuery target.toList = r.config.subDir.toList ++ rest)
    (hrest : rest.head? ≠ some '/') :
    r.normalize target = String.ofList ('/' :: rest) ∧
      r.normalize target ≠ Path.normalize target "" ∧
      r.AnswersAlike target (r.setSubDir "") (String.ofList ('/' :: rest)) ∧
      Path.normalize target (r.config.subDir ++ "/") = Path.normalize target "" ∧
      (r.setSubDir (r.config.subDir ++ "/")).AnswersAlike target (r.setSubDir "") target := by
  have hnormal : r.normalize target = String.ofList ('/' :: rest) := by
    rw [Router.normalize, Path.normalize_of_append htarget, Path.ensureSlash_of_head?_ne hrest]
  have hslash : Path.normalize target (r.config.subDir ++ "/") = Path.normalize target "" :=
    Path.normalize_sibling_slash htarget hrest
  have hmark : '?' ∉ rest := fun hmem =>
    Path.not_mem_dropQuery target.toList (htarget ▸ List.mem_append_right _ hmem)
  refine ⟨hnormal, Path.normalize_sibling_ne hsubDir hend htarget hrest, ?_, hslash, ?_⟩
  · refine Router.answersAlike_setSubDir ?_
    rw [hnormal, Path.normalize_of_slash hmark]
  · exact Router.answersAlike_of_normalize rfl rfl hslash

/-- Below `/app` the route `/X` answers for `/appX`. -/
theorem resolve_ofSibling :
    let r := (Router.ofConfig { subDir := "/app" }).after [.register (.ofPattern "/X")]
    r.config.subDir = "/app" ∧ r.normalize "/appX?q=1" = "/X" ∧
      r.normalize "/appX?q=1" ≠ Path.normalize "/appX?q=1" "" ∧
      Path.normalize "/appX?q=1" "/app/" = Path.normalize "/appX?q=1" "" ∧
      (r.resolve "/appX?q=1").value.map (·.route.source) = some "/X" := by
  intro r
  have hconfig : r.config.subDir = "/app" := by decide +kernel
  have htarget : Path.dropQuery "/appX?q=1".toList = r.config.subDir.toList ++ ['X'] := by
    rw [hconfig]
    decide
  obtain ⟨hnormal, hne, hanswers, hslash, -⟩ :=
    answers_of_sibling r (by rw [hconfig]; decide) (by rw [hconfig]; decide) htarget (by decide)
  rw [hconfig] at hslash
  refine ⟨hconfig, hnormal, hne, hslash, ?_⟩
  rw [hanswers.resolve]
  decide +kernel

/-- Not every target whose path starts with the directory without going on with a slash is answered
as it is. -/
theorem not_normalize_sibling_eq :
    ¬∀ (target subDir : String) (rest : List Char), subDir.toList ≠ [] →
      subDir.toList.getLast? ≠ some '/' →
      Path.dropQuery target.toList = subDir.toList ++ rest → rest ≠ [] →
      rest.head? ≠ some '/' → Path.normalize target subDir = Path.normalize target "" := by
  intro hall
  have hsame := hall "/appX" "/app" ['X'] (by decide) (by decide) (by decide) (by decide)
    (by decide)
  have happ : Path.normalize "/appX" "/app" = "/X" := by decide +kernel
  have hwhole : Path.normalize "/appX" "" = "/appX" := by decide +kernel
  rw [happ, hwhole] at hsame
  exact absurd hsame (by decide)

end PathRouter
