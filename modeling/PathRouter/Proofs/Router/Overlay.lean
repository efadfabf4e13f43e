import PathRouter.Proofs.Params
import PathRouter.Proofs.Pattern.CaptureGroups
import PathRouter.Proofs.Router.Resolution
import PathRouter.Proofs.Text.Percent

/-!
# What the parameters of a path are

The parameters of a path are written in one go: the captures of the pattern in their order, decoded,
and then the parameters that every match of the route has, as they are. So a name stands where it is
captured first, and has the value that every match has or else that of its rightmost capture
(`overlay_paramsFor`).

* `Pattern.readings` is what the captures come to, and `Route.entries_paramsFor_eq` puts the writes
  together.
* `IsRightmost` picks the capture of a name that counts, whether or not it took part in the match.
* `Pattern.ReadsOwn`: the capture reads the group that was written for it. Only then is its value
  what that group matched, and empty if the group took no part (`Pattern.captured_of_readsOwn`).

A capture that took no part counts as well, with the empty text. Where a name is captured in both
branches of an alternative this loses what the first branch has captured: `get?_paramsFor_iff` tells
when the value of a name is that of the last capture which did take part.
-/

namespace PathRouter

open Text Pattern

/-! ## The last place of a name -/

/-- The name stands at the place `i` and at none behind it. -/
structure IsRightmost (names : List String) (name : String) (i : Nat) : Prop where
  stands : names[i]? = some name
  last : ∀ j, i < j → names[j]? ≠ some name

theorem exists_isRightmost {names : List String} {name : String} (h : name ∈ names) :
    ∃ i, IsRightmost names name i := by
  induction names with
  | nil => cases h
  | cons first names ih =>
    by_cases hrest : name ∈ names
    · obtain ⟨i, hstands, hlast⟩ := ih hrest
      refine ⟨i + 1, hstands, fun j hj => ?_⟩
      obtain ⟨k, rfl⟩ := Nat.exists_eq_succ_of_ne_zero (Nat.ne_zero_of_lt hj)
      exact hlast k (Nat.lt_of_succ_lt_succ hj)
    · obtain rfl : name = first := (List.mem_cons.mp h).resolve_right hrest
      refine ⟨0, rfl, fun j hj hname => ?_⟩
      obtain ⟨k, rfl⟩ := Nat.exists_eq_succ_of_ne_zero (Nat.ne_zero_of_lt hj)
      exact hrest (List.mem_of_getElem? hname)

theorem IsRightmost.eq {names : List String} {name : String} {i j : Nat}
    (hi : IsRightmost names name i) (hj : IsRightmost names name j) : i = j := by
  rcases Nat.lt_trichotomy i j with hlt | heq | hlt
  · exact absurd hj.stands (hi.last j hlt)
  · exact heq
  · exact absurd hi.stands (hj.last i hlt)

/-- The last pair with a name is the one at its last place. -/
theorem lastValue_of_isRightmost {log : List (String × String)} {name value : String} {i : Nat}
    (h : IsRightmost (log.map (·.1)) name i) (hpair : log[i]? = some (name, value)) :
    lastValue log name = some value := by
  obtain ⟨hi, hget⟩ := List.getElem?_eq_some_iff.mp hpair
  have hlater : lastValue (log.drop (i + 1)) name = none := by
    rw [lastValue_eq_none_iff, List.map_drop]
    intro hmem
    obtain ⟨j, hj⟩ := List.mem_iff_getElem?.mp hmem
    rw [List.getElem?_drop] at hj
    exact h.last (i + 1 + j) (by omega) hj
  have hlog : log = (log.take i ++ [(name, value)]) ++ log.drop (i + 1) := by
    rw [List.append_assoc, List.singleton_append, ← hget, ← List.drop_eq_getElem_cons hi,
      List.take_append_drop]
  rw [hlog, lastValue_append, hlater, Option.none_or, lastValue_append_singleton, if_pos rfl]

/-! ## What a capture reads -/

namespace Pattern

/-- The capture number `i` reads the group that was written for it. -/
def ReadsOwn (p : Pattern) (conditions : Conditions) (i : Nat) : Prop :=
  ∃ offset, (emitted p.source conditions)[i]? = some offset ∧ p.ReadsAt i offset

/-- That is to say that the parser opens a group where it was written. -/
theorem readsOwn_iff_mem_openings {source : String} {conditions : Conditions} {p : Pattern}
    (hcompile : compile source conditions = .ok p) {i offset : Nat}
    (hemitted : (emitted source conditions)[i]? = some offset) :
    p.ReadsOwn conditions i ↔
      offset ∈ (Regex.openings (assemble source conditions).toList).map (·.offset) := by
  have hreads : p.ReadsOwn conditions i ↔ p.ReadsAt i offset := by
    rw [ReadsOwn, source_of_compile hcompile, hemitted]
    simp
  rw [hreads, readsAt_iff_mem_openings hcompile hemitted, openings, (parse_of_compile hcompile).1]

theorem groupIndex_ne_zero {p : Pattern} {i offset : Nat} (h : p.ReadsAt i offset) :
    p.groupIndex i ≠ 0 := by
  obtain ⟨k, -, hindex, -⟩ := h
  omega

/-- The capture gives what its group matched, and nothing if the group took no part. -/
theorem captured_of_readsOwn {p : Pattern} {conditions : Conditions} {i : Nat}
    (h : p.ReadsOwn conditions i) (path : List Char) (m : Regex.Match) :
    p.captured path m i = (m.group? path (groupName i)).getD [] := by
  obtain ⟨offset, -, hreads⟩ := h
  rw [captured_eq, if_neg (groupIndex_ne_zero hreads)]

/-- Otherwise it gives the whole match, or what a group matched that the pattern did not write. -/
theorem captured_of_not_readsOwn {source : String} {conditions : Conditions} {p : Pattern}
    (hcompile : compile source conditions = .ok p) {i : Nat}
    (hi : i < (captureNames source).length) (h : ¬p.ReadsOwn conditions i) (path : List Char)
    (m : Regex.Match) :
    (p.groupIndex i = 0 ∧ p.captured path m i = m.whole path) ∨
      ∃ other, other ∉ emitted source conditions ∧ p.ReadsAt i other ∧
        p.captured path m i = (m.group? path (groupName i)).getD [] := by
  obtain ⟨offset, hoffset⟩ : ∃ offset, (emitted source conditions)[i]? = some offset := by
    refine ⟨_, List.getElem?_eq_getElem (?_ : i < (emitted source conditions).length)⟩
    rwa [emitted, length_emittedFrom, ← List.length_map (f := String.ofList)]
  have hnot : ¬p.ReadsAt i offset := fun hreads =>
    h ⟨offset, by rwa [source_of_compile hcompile], hreads⟩
  rcases groupIndex_of_not_readsAt hcompile hoffset hnot with hzero | ⟨other, hother, hreads⟩
  · exact .inl ⟨hzero, by rw [captured_eq, if_pos hzero]⟩
  · exact .inr ⟨other, hother, hreads, by rw [captured_eq, if_neg (groupIndex_ne_zero hreads)]⟩

/-- The captures in order, each with the value that its text stands for. -/
def readings (p : Pattern) (path : List Char) (m : Regex.Match) : List (String × String) :=
  p.names.mapIdx fun i name => (name, Percent.decode (String.ofList (p.captured path m i)))

theorem keys_readings (p : Pattern) (path : List Char) (m : Regex.Match) :
    (p.readings path m).map (·.1) = p.names := by
  refine List.ext_getElem? fun i => ?_
  rw [readings, List.getElem?_map, List.getElem?_mapIdx, Option.map_map]
  exact Option.map_id'

theorem lastValue_readings {p : Pattern} {name : String} {i : Nat}
    (h : IsRightmost p.names name i) (path : List Char) (m : Regex.Match) :
    lastValue (p.readings path m) name =
      some (Percent.decode (String.ofList (p.captured path m i))) := by
  refine lastValue_of_isRightmost (i := i) (by rwa [keys_readings]) ?_
  rw [readings, List.getElem?_mapIdx, h.stands]
  rfl

end Pattern

/-! ## Captures under the parameters that every match has -/

namespace Route

theorem compile_eq_ok_iff {source : String} {handler : HandlerId} {static : Params}
    {conditions : Conditions} {route : Route} :
    compile source handler static conditions = .ok route ↔
      ∃ p, Pattern.compile source conditions = .ok p ∧
        route = ⟨p, handler, static, conditions⟩ := by
  unfold compile
  cases Pattern.compile source conditions with
  | error e => simp [bind, Except.bind]
  | ok p => simp [bind, Except.bind, pure, Except.pure, eq_comm]

/-- The writes of a match. -/
theorem entries_paramsFor_eq (route : Route) {path : String} {m : Regex.Match}
    (hfind : route.pattern.regex.find? path.toList = some m) :
    ∃ params, route.paramsFor path = some params ∧
      params.entries = canonical (route.pattern.readings path.toList m ++
        route.staticParams.entries) := by
  have hcaptures : route.pattern.captures path = some (route.pattern.names.mapIdx fun i name =>
      (name, String.ofList (route.pattern.captured path.toList m i))) := by
    rw [captures, hfind]
    rfl
  have hdecode : decodeCaptures (route.pattern.names.mapIdx fun i name =>
      (name, String.ofList (route.pattern.captured path.toList m i))) =
        route.pattern.readings path.toList m := by
    refine List.ext_getElem? fun i => ?_
    rw [decodeCaptures, readings, List.getElem?_map, List.getElem?_mapIdx, List.getElem?_mapIdx,
      Option.map_map]
    rfl
  refine ⟨_, by rw [paramsFor, hcaptures, Option.map_some, hdecode], ?_⟩
  rw [Params.entries_merge, Params.entries_ofList]
  exact canonical_append_congr (canonical_of_nodup (nodup_keys_canonical _)) rfl

/-- The values of a match: what every match has goes before what is captured. -/
theorem get?_paramsFor (route : Route) {path : String} {m : Regex.Match} {params : Params}
    (hentries : params.entries = canonical (route.pattern.readings path.toList m ++
      route.staticParams.entries)) (name : String) :
    params.get? name =
      (route.staticParams.get? name).or
        (lastValue (route.pattern.readings path.toList m) name) := by
  rw [Params.get?, hentries, lookup_canonical, lastValue_append,
    lastValue_of_nodup route.staticParams.nodup_keys]
  rfl

end Route

section Compiled

variable {source : String} {handler : HandlerId} {static : Params} {conditions : Conditions}
  {route : Route}

/-- **Captures under the parameters that every match has.** A path that a route matches has
parameters. Their names are the names of the captures, each where it is captured first, and then
those of the parameters that every match has and that are not captured. The value of a name is the
one that every match has, as it is. If there is none it is that of the rightmost capture, decoded:
what the group matched that was written for it, and the empty value if the group took no part. A
capture for which that group is lost reads another one or the whole match. -/
theorem overlay_paramsFor (hroute : Route.compile source handler static conditions = .ok route)
    {path : String} (hmatch : route.isMatch path) :
    ∃ m params, route.pattern.regex.find? path.toList = some m ∧
      route.paramsFor path = some params ∧ (params.entries.map (·.1)).Nodup ∧
      params.entries.map (·.1) = (captureNames source).eraseDups ++
        (static.entries.map (·.1)).filter (· ∉ captureNames source) ∧
      (∀ name value, static.get? name = some value → params.get? name = some value) ∧
      ∀ name i, static.get? name = none → IsRightmost (captureNames source) name i →
        (route.pattern.ReadsOwn conditions i →
          (∀ text, m.group? path.toList (groupName i) = some text →
            params.get? name = some (Percent.decode (String.ofList text))) ∧
          (m.group? path.toList (groupName i) = none → params.get? name = some "")) ∧
        (¬route.pattern.ReadsOwn conditions i →
          route.pattern.groupIndex i = 0 ∧
            params.get? name = some (Percent.decode (String.ofList (m.whole path.toList))) ∨
          ∃ other, other ∉ emitted source conditions ∧ route.pattern.ReadsAt i other ∧
            params.get? name = some (Percent.decode (String.ofList
              ((m.group? path.toList (groupName i)).getD [])))) := by
  obtain ⟨p, hcompile, rfl⟩ := Route.compile_eq_ok_iff.mp hroute
  have hnames : p.names = captureNames source := (parse_of_compile hcompile).2.1
  obtain ⟨m, hfind⟩ := Option.isSome_iff_exists.mp hmatch
  obtain ⟨params, hparams, hentries⟩ := Route.entries_paramsFor_eq _ hfind
  have hget := Route.get?_paramsFor _ hentries
  refine ⟨m, params, hfind, hparams, params.nodup_keys, ?_, fun name value hstatic => ?_,
    fun name i hstatic hlast => ?_⟩
  · rw [hentries, keys_canonical, List.map_append, eraseDups_append_eq, keys_readings,
      eraseDups_of_nodup static.nodup_keys, hnames]
  · rw [hget, hstatic, Option.some_or]
  have hvalue : params.get? name =
      some (Percent.decode (String.ofList (p.captured path.toList m i))) := by
    rw [hget, hstatic, Option.none_or, lastValue_readings (hnames ▸ hlast)]
  refine ⟨fun hown => ⟨fun text htext => ?_, fun hnone => ?_⟩, fun hnot => ?_⟩
  · rw [hvalue, captured_of_readsOwn hown, htext, Option.getD_some]
  · rw [hvalue, captured_of_readsOwn hown, hnone, Option.getD_none]
    rfl
  · have hi : i < (captureNames source).length :=
      (List.getElem?_eq_some_iff.mp hlast.stands).1
    rcases captured_of_not_readsOwn hcompile hi hnot path.toList m with
      ⟨hzero, hwhole⟩ | ⟨other, hother, hreads, hgroup⟩
    · exact .inl ⟨hzero, by rw [hvalue, hwhole]⟩
    · exact .inr ⟨other, hother, hreads, by rw [hvalue, hgroup]⟩

/-- A name that is captured twice, one that is captured although every match has it, and a value
with an escape that every match has. -/
theorem paramsFor_ofRepeated :
    ∃ route params, Route.compile "/:id/:id/:k" ⟨"C", "a"⟩
        ((Params.empty.insert "x" "%41").insert "k" "v")
        ((Params.empty.insert "id" ".+").insert "k" ".") = .ok route ∧
      route.isMatch "/1/%32/3" ∧ route.paramsFor "/1/%32/3" = some params ∧
      params.entries.map (·.1) = ["id", "k", "x"] ∧ params.get? "x" = some "%41" ∧
      params.get? "k" = some "v" ∧ params.get? "id" = some "2" := by
  let conditions := (Params.empty.insert "id" ".+").insert "k" "."
  have hresult : (compile "/:id/:id/:k" conditions).toOption.map (fun p =>
      (p.regex.find? "/1/%32/3".toList).map
        (fun m => m.group? "/1/%32/3".toList (groupName 1))) =
          some (some (some "%32".toList)) := by
    decide +kernel
  obtain ⟨p, hcompile, hfound⟩ := exists_of_map_compile hresult
  obtain ⟨m, hfind, hgroup⟩ := Option.map_eq_some_iff.mp hfound
  have hroute : Route.compile "/:id/:id/:k" ⟨"C", "a"⟩
      ((Params.empty.insert "x" "%41").insert "k" "v") conditions =
        .ok ⟨p, ⟨"C", "a"⟩, _, conditions⟩ :=
    Route.compile_eq_ok_iff.mpr ⟨p, hcompile, rfl⟩
  have hmatch : (p.regex.find? "/1/%32/3".toList).isSome := by
    rw [hfind]
    rfl
  have hnames : captureNames "/:id/:id/:k" = ["id", "id", "k"] := by decide +kernel
  have hlast : IsRightmost (captureNames "/:id/:id/:k") "id" 1 := by
    rw [hnames]
    refine ⟨rfl, fun j hj hname => ?_⟩
    obtain ⟨hlt, -⟩ := List.getElem?_eq_some_iff.mp hname
    obtain rfl : j = 2 := Nat.le_antisymm (Nat.le_of_lt_succ hlt) hj
    exact absurd hname (by decide)
  have hemitted : (emitted "/:id/:id/:k" conditions)[1]? = some 15 := by decide +kernel
  have hown : p.ReadsOwn conditions 1 :=
    (readsOwn_iff_mem_openings hcompile hemitted).mpr (by decide +kernel)
  obtain ⟨m', params, hfind', hparams, -, hkeys, hstatic, hcaptured⟩ :=
    overlay_paramsFor hroute hmatch
  obtain rfl : m = m' := Option.some.inj (hfind.symm.trans hfind')
  refine ⟨_, params, hroute, hmatch, hparams, ?_, hstatic "x" "%41" rfl, hstatic "k" "v" rfl, ?_⟩
  · rw [hkeys, hnames]
    decide
  · rw [((hcaptured "id" 1 rfl hlast).1 hown).1 _ hgroup]
    decide +kernel

/-- In a class there is no group for the capture, so that none took part in the match. Still the
value is not empty: it is the whole path. -/
theorem paramsFor_inClass :
    (Route.compile "/[:id]" ⟨"C", "a"⟩ .empty .empty).toOption.map (fun route =>
        ((route.pattern.regex.find? "/a".toList).map fun m => m.group? "/a".toList (groupName 0),
          (route.paramsFor "/a").map (·.entries))) =
      some (some none, some [("id", "/a")]) := by
  decide +kernel

/-- **When a value is that of the last capture which took part.** Let `j` be the last capture of a
name whose group took part in the match, and `text` what that group matched. The name has the value
of `text` just if no other capture of the name stands behind it, or `text` is empty: a capture
behind it took no part, and gives the name the empty value. -/
theorem get?_paramsFor_iff (hroute : Route.compile source handler static conditions = .ok route)
    {path : String} {m : Regex.Match} (hfind : route.pattern.regex.find? path.toList = some m)
    {name : String} (hstatic : static.get? name = none)
    (hown : ∀ i, IsRightmost (captureNames source) name i → route.pattern.ReadsOwn conditions i)
    {j : Nat} {text : List Char} (hstands : (captureNames source)[j]? = some name)
    (htook : m.group? path.toList (groupName j) = some text)
    (hlater : ∀ k, j < k → (captureNames source)[k]? = some name →
      m.group? path.toList (groupName k) = none) :
    ∃ params, route.paramsFor path = some params ∧
      (params.get? name = some (Percent.decode (String.ofList text)) ↔
        IsRightmost (captureNames source) name j ∨ text = []) ∧
      (¬IsRightmost (captureNames source) name j → params.get? name = some "") := by
  obtain ⟨p, hcompile, rfl⟩ := Route.compile_eq_ok_iff.mp hroute
  have hnames : p.names = captureNames source := (parse_of_compile hcompile).2.1
  obtain ⟨params, hparams, hentries⟩ := Route.entries_paramsFor_eq _ hfind
  obtain ⟨i, hlast⟩ := exists_isRightmost (List.mem_of_getElem? hstands)
  have hvalue : params.get? name =
      some (Percent.decode (String.ofList ((m.group? path.toList (groupName i)).getD []))) := by
    rw [Route.get?_paramsFor _ hentries, hstatic, Option.none_or,
      lastValue_readings (hnames ▸ hlast), captured_of_readsOwn (hown i hlast)]
  have hempty (hnot : ¬IsRightmost (captureNames source) name j) :
      params.get? name = some "" := by
    -- the rightmost capture is another one, behind `j`, so that it took no part
    have hlt : j < i := by
      rcases Nat.lt_trichotomy j i with hlt | rfl | hlt
      · exact hlt
      · exact absurd hlast hnot
      · exact absurd hstands (hlast.last j hlt)
    rw [hvalue, hlater i hlt hlast.stands, Option.getD_none]
    rfl
  refine ⟨params, hparams, ⟨fun hget => ?_, ?_⟩, hempty⟩
  · by_cases hright : IsRightmost (captureNames source) name j
    · exact .inl hright
    · rw [hempty hright, Option.some.injEq, eq_comm, Percent.decode_eq_empty_iff] at hget
      exact .inr (String.ofList_eq_empty_iff.mp hget)
  · intro hcase
    by_cases hright : IsRightmost (captureNames source) name j
    · obtain rfl := hlast.eq hright
      rw [hvalue, htook, Option.getD_some]
    · obtain rfl := hcase.resolve_left hright
      exact hempty hright

/-- The first branch of an alternative captures the name, and the second takes the value away. -/
theorem get?_ofAlternatives :
    ∃ route params, Route.compile "/(a/:id|b/:id)" ⟨"C", "a"⟩ .empty .empty = .ok route ∧
      route.paramsFor "/a/1" = some params ∧ params.get? "id" = some "" ∧
      params.get? "id" ≠ some "1" := by
  have hresult : (compile "/(a/:id|b/:id)" .empty).toOption.map (fun p =>
      (p.regex.find? "/a/1".toList).map (fun m =>
        (m.group? "/a/1".toList (groupName 0), m.group? "/a/1".toList (groupName 1)))) =
          some (some (some "1".toList, none)) := by
    decide +kernel
  obtain ⟨p, hcompile, hfound⟩ := exists_of_map_compile hresult
  obtain ⟨m, hfind, hgroups⟩ := Option.map_eq_some_iff.mp hfound
  obtain ⟨htook, hnot⟩ := Prod.mk.inj hgroups
  have hroute : Route.compile "/(a/:id|b/:id)" ⟨"C", "a"⟩ .empty .empty =
      .ok ⟨p, ⟨"C", "a"⟩, .empty, .empty⟩ :=
    Route.compile_eq_ok_iff.mpr ⟨p, hcompile, rfl⟩
  have hnames : captureNames "/(a/:id|b/:id)" = ["id", "id"] := by decide +kernel
  have hlater (k : Nat) (hk : 0 < k) (hname : (captureNames "/(a/:id|b/:id)")[k]? = some "id") :
      k = 1 := by
    rw [hnames] at hname
    obtain ⟨hlt, -⟩ := List.getElem?_eq_some_iff.mp hname
    exact Nat.le_antisymm (Nat.le_of_lt_succ hlt) hk
  have hfirst : ¬IsRightmost (captureNames "/(a/:id|b/:id)") "id" 0 := by
    rw [hnames]
    exact fun h => h.last 1 Nat.one_pos rfl
  have hemitted : (emitted "/(a/:id|b/:id)" .empty)[1]? = some 36 := by decide +kernel
  have hown (i : Nat) (hi : IsRightmost (captureNames "/(a/:id|b/:id)") "id" i) :
      p.ReadsOwn .empty i := by
    cases i with
    | zero => exact absurd hi hfirst
    | succ i =>
      rw [hlater (i + 1) (Nat.succ_pos i) hi.stands]
      exact (readsOwn_iff_mem_openings hcompile hemitted).mpr (by decide +kernel)
  have hstands : (captureNames "/(a/:id|b/:id)")[0]? = some "id" := by
    rw [hnames]
    rfl
  obtain ⟨params, hparams, hiff, hempty⟩ := get?_paramsFor_iff hroute hfind rfl hown hstands htook
    (fun k hk hname => by rw [hlater k hk hname]; exact hnot)
  refine ⟨_, params, hroute, hparams, hempty hfirst, fun hget => ?_⟩
  rcases hiff.mp hget with hright | hnil
  · exact hfirst hright
  · cases hnil

/-- The capture of the first branch took part with `1`, and `1` is lost. -/
theorem paramsFor_ofAlternatives :
    (Route.compile "/(a/:id|b/:id)" ⟨"C", "a"⟩ .empty .empty).toOption.map (fun route =>
        ((route.pattern.regex.find? "/a/1".toList).map fun m =>
            m.group? "/a/1".toList (groupName 0),
          (route.paramsFor "/a/1").map (·.entries))) =
      some (some (some "1".toList), some [("id", "")]) := by
  decide +kernel

end Compiled

end PathRouter
