import Mathlib.Data.List.Forall2
import PathRouter.Proofs.Params
import PathRouter.Proofs.Path
import PathRouter.Proofs.Pattern.Plain
import PathRouter.Proofs.Router.Resolution
import PathRouter.Proofs.Text.Percent

/-!
# Values survive the way through a router

Write some values into the captures of a route, percent-encoded in any way, and ask a router for the
path: it finds the route, and the parameters are the values again.

* `normalize_targetOf`: whatever the router's directory, a slash more at the end or a query, the
  router matches the same path, but for the slash.
* `Route.Written.fits`: what was written fits that path. Where every value ends with its capture no
  other filling does, so the route captures what was written.
* `Route.entries_paramsFor`: the parameters are the values that were written and after them those
  that every match has, if no name occurs twice.
-/

namespace PathRouter

open Text Pattern

/-! ## Routes of a router -/

namespace Router

/-- A route in the table is the one that its own parts compile to. -/
theorem compile_of_mem {config : Config} {ops : List Op} {route : Route}
    (h : route ∈ ((Router.ofConfig config).after ops).routes) :
    Pattern.compile route.source route.conditions = .ok route.pattern := by
  rw [(tracks_after config ops).routes] at h
  obtain ⟨d, -, hd⟩ := List.mem_filterMap.mp (mem_of_mem_distinct h)
  obtain ⟨pattern, hpattern, rfl⟩ := Declaration.route?_eq_some_iff.mp hd
  have hsource : pattern.source = d.mapping.pattern := Pattern.source_of_compile hpattern
  rw [Route.source, hsource, hpattern]

/-- Some operations lead to the router. -/
def Reachable (r : Router) : Prop := ∃ config ops, r = (Router.ofConfig config).after ops

end Router

/-! ## Written values -/

namespace Pattern

/-- What holds of all literals and all values holds of every character that they make up. -/
theorem forall_mem_fill {P : Char → Prop} {pieces : List Piece} {values : List (List Char)}
    (hpieces : ∀ text, .literal text ∈ pieces → ∀ c ∈ text, P c)
    (hvalues : ∀ value ∈ values, ∀ c ∈ value, P c) : ∀ c ∈ fill pieces values, P c := by
  fun_induction fill pieces values with
  | case1 text pieces values ih =>
    intro c hc
    rcases List.mem_append.mp hc with hc | hc
    · exact hpieces text List.mem_cons_self c hc
    · exact ih (fun text htext => hpieces text (List.mem_cons_of_mem _ htext)) hvalues c hc
  | case2 name pieces value values ih =>
    obtain ⟨hvalue, hvalues⟩ := List.forall_mem_cons.mp hvalues
    intro c hc
    rcases List.mem_append.mp hc with hc | hc
    · exact hvalue c hc
    · exact ih (fun text htext => hpieces text (List.mem_cons_of_mem _ htext)) hvalues c hc
  | case3 => exact fun c hc => nomatch hc

/-- What is written for a value can stand for a capture. -/
theorem isCaptureChar_of_writes {bytes : List UInt8} {code : List Char}
    (h : Percent.Writes bytes code) : ∀ c ∈ code, isCaptureChar c := by
  induction h with
  | nil => exact fun c hc => nomatch hc
  | escape hhigh hlow _ ih =>
    have halnum {c : Char} (hc : c.isAlphanum) : isCaptureChar c := by simp [isCaptureChar, hc]
    exact List.forall_mem_cons.mpr ⟨by decide, List.forall_mem_cons.mpr ⟨halnum hhigh.facts.2.2.1,
      List.forall_mem_cons.mpr ⟨halnum hlow.facts.2.2.1, ih⟩⟩⟩
  | self hc _ ih =>
    refine List.forall_mem_cons.mpr ⟨?_, ih⟩
    simp only [Percent.isUnreserved, Bool.or_eq_true, decide_eq_true_eq] at hc
    rcases hc with (hc | rfl) | rfl
    · simp [isCaptureChar, hc]
    · decide
    · decide
  | plus _ ih => exact List.forall_mem_cons.mpr ⟨by decide, ih⟩

theorem isCaptureValue_of_writes {value : String} {code : List Char} (hvalue : value ≠ "")
    (h : Percent.Writes (Utf8.encode value.toList) code) : isCaptureValue code := by
  have hne : code ≠ [] := by
    rintro rfl
    -- nothing is written for no bytes only, and only the empty value has none
    generalize hbytes : Utf8.encode value.toList = bytes at h
    cases h
    exact hvalue (String.toList_inj.mp (Utf8.encode_inj hbytes))
  have hchars := isCaptureChar_of_writes h
  simpa [isCaptureValue, hne] using hchars

end Pattern

/-- A request target: a path below the directory `subDir`, maybe with a slash more at its end, and
maybe with a query. -/
def targetOf (subDir : String) (path : List Char) (slash : Bool) (query : Option (List Char)) :
    String :=
  String.ofList
    (subDir.toList ++ (path ++ if slash then ['/'] else []) ++ query.elim [] ('?' :: ·))

/-- The directory and the query do not matter. -/
theorem normalize_targetOf {subDir : String} {path : List Char} (hsubDir : '?' ∉ subDir.toList)
    (hpath : '?' ∉ path) (hhead : path.head? = some '/') (slash : Bool)
    (query : Option (List Char)) :
    Path.normalize (targetOf subDir path slash query) subDir =
      String.ofList (path ++ if slash then ['/'] else []) := by
  have hslash : '?' ∉ if slash then ['/'] else [] := by cases slash <;> decide
  have hmark : '?' ∉ subDir.toList ++ (path ++ if slash then ['/'] else []) := by
    simp only [List.mem_append, not_or]
    exact ⟨hsubDir, hpath, hslash⟩
  have htarget : targetOf subDir path slash query =
      Path.withQuery (subDir.toList ++ (path ++ if slash then ['/'] else [])) query := rfl
  -- what is left behind the directory starts with a slash already
  have hfront : (path ++ if slash then ['/'] else []).head? = some '/' := by
    rw [List.head?_append, hhead, Option.some_or]
  rw [htarget, Path.normalize_withQuery hmark, Path.unmount_append,
    Path.ensureSlash_of_head? hfront]

/-! ## The whole way -/

theorem map_decode_of_writes {values : List String} {codes : List (List Char)}
    (h : List.Forall₂ (fun value code => Percent.Writes (Utf8.encode value.toList) code)
      values codes) :
    codes.map (Percent.decode ∘ String.ofList) = values := by
  induction h with
  | nil => rfl
  | cons hcode _ ih =>
    rw [List.map_cons, ih, Function.comp_apply, Percent.decode_writes hcode, String.ofList_toList]

/-- What is captured is decoded, and stands in front of what every match has. -/
theorem Route.entries_paramsFor {route : Route} {path : String} {names values : List String}
    {codes : List (List Char)}
    (hcaptures : route.pattern.captures path = some (names.zip (codes.map String.ofList)))
    (hcodes : List.Forall₂ (fun value code => Percent.Writes (Utf8.encode value.toList) code)
      values codes)
    (hlength : values.length = names.length) (hnodup : names.Nodup)
    (hstatic : ∀ name ∈ names, route.staticParams.get? name = none) :
    ∃ params, route.paramsFor path = some params ∧
      params.entries = names.zip values ++ route.staticParams.entries := by
  have hdecoded :
      Route.decodeCaptures (names.zip (codes.map String.ofList)) = names.zip values := by
    rw [← map_decode_of_writes hcodes, List.zip_map_right, List.zip_map_right,
      Route.decodeCaptures, List.map_map]
    rfl
  have hkeys : (names.zip values).map (·.1) = names := List.map_fst_zip (Nat.le_of_eq hlength.symm)
  have hcaptured : (Params.ofList (names.zip values)).entries = names.zip values :=
    Params.entries_extend (p := .empty) (by
      rw [show Params.empty.entries = [] from rfl]
      simpa [hkeys])
  refine ⟨_, by rw [paramsFor, hcaptures, Option.map_some], ?_⟩
  rw [hdecoded, Params.merge, Params.entries_extend, hcaptured]
  rw [hcaptured, List.map_append, hkeys, List.nodup_append]
  -- no name of a capture is among those that every match has
  refine ⟨hnodup, route.staticParams.nodup_keys, ?_⟩
  rintro name hname _ hmem rfl
  exact Params.get?_eq_none_iff.mp (hstatic name hname) hmem

/-- A route into whose captures values can be written: its literals and its captures can be told
from each other, and every capture has a name of its own. -/
structure Route.TakesValues (route : Route) : Prop where
  plain : ∀ piece ∈ Piece.scan route.source.toList, piece.isPlain
  free : ∀ name ∈ captureNames route.source, route.conditions.get? name = none
  slash : ∃ text pieces, Piece.scan route.source.toList = .literal ('/' :: text) :: pieces
  delimited : isDelimited (Piece.scan route.source.toList)
  nodup : (captureNames route.source).Nodup
  static : ∀ name ∈ captureNames route.source, route.staticParams.get? name = none

/-- The codes write values for the captures of a route. -/
structure Route.Written (route : Route) (values : List String) (codes : List (List Char)) :
    Prop where
  length : values.length = (captureNames route.source).length
  nonempty : ∀ value ∈ values, value ≠ ""
  writes : List.Forall₂ (fun value code => Percent.Writes (Utf8.encode value.toList) code)
    values codes

theorem exists_mem_of_forall₂ {α β : Type} {R : α → β → Prop} {as : List α} {bs : List β}
    (h : List.Forall₂ R as bs) {b : β} (hb : b ∈ bs) : ∃ a ∈ as, R a b := by
  induction h with
  | nil => cases hb
  | cons hab _ ih =>
    rcases List.mem_cons.mp hb with rfl | hb
    · exact ⟨_, List.mem_cons_self, hab⟩
    · obtain ⟨a, ha, hab⟩ := ih hb
      exact ⟨a, List.mem_cons_of_mem _ ha, hab⟩

/-- What is written fits the path that it makes up, with or without a slash at the end. -/
theorem Route.Written.fits {route : Route} {values : List String} {codes : List (List Char)}
    (h : route.Written values codes) (slash : Bool) :
    Fits (Piece.scan route.source.toList) codes
      (fill (Piece.scan route.source.toList) codes ++ if slash then ['/'] else []) where
  length := by
    rw [← h.writes.length_eq, h.length, captureNames, List.length_map]
  valid := by
    intro code hcode
    obtain ⟨value, hvalue, hwrites⟩ := exists_mem_of_forall₂ h.writes hcode
    exact isCaptureValue_of_writes (h.nonempty value hvalue) hwrites
  covers := by
    cases slash
    · exact .inl (List.append_nil _)
    · exact .inr rfl

/-- **Values survive the way through a router.** A route whose captures end where their values do
gets back the values that have been written into its captures, however they were written, whatever
directory the router is mounted in and whatever follows the path. -/
theorem resolve_targetOf {r : Router} (hr : r.Reachable) {before later : List Route} {route : Route}
    (hroutes : r.routes = before ++ route :: later) (hroute : route.TakesValues)
    {values : List String} {codes : List (List Char)} (hcodes : route.Written values codes)
    (hsubDir : '?' ∉ r.config.subDir.toList) (slash : Bool) (query : Option (List Char))
    {target : String}
    (htarget : target = targetOf r.config.subDir (fill (Piece.scan route.source.toList) codes)
      slash query)
    (hbefore : ∀ other ∈ before, other.isMatch (r.normalize target) = false) :
    ∃ params, (r.resolve target).value = some ⟨route, params⟩ ∧
      params.entries = (captureNames route.source).zip values ++ route.staticParams.entries := by
  have hcompile : compile route.source route.conditions = .ok route.pattern := by
    obtain ⟨config, ops, rfl⟩ := hr
    exact Router.compile_of_mem (by rw [hroutes]; simp)
  have hpattern := eq_plainPattern hcompile hroute.plain hroute.free
  have hfits := hcodes.fits slash
  -- a literal has no `?`, as that has a meaning in expressions, and a code escapes it
  have hquery : '?' ∉ fill (Piece.scan route.source.toList) codes := by
    intro hmem
    refine forall_mem_fill (P := (· ≠ '?')) ?_ ?_ '?' hmem rfl
    · rintro text htext c hc rfl
      exact absurd (List.all_eq_true.mp (hroute.plain _ htext) _ hc) (by decide)
    · rintro code hcode c hc rfl
      obtain ⟨value, -, hwrites⟩ := exists_mem_of_forall₂ hcodes.writes hcode
      exact absurd (isCaptureChar_of_writes hwrites _ hc) (by decide)
  have hhead : (fill (Piece.scan route.source.toList) codes).head? = some '/' := by
    obtain ⟨text, pieces, hscan⟩ := hroute.slash
    rw [hscan]
    rfl
  have hnormal : r.normalize target = String.ofList
      (fill (Piece.scan route.source.toList) codes ++ if slash then ['/'] else []) := by
    rw [htarget]
    exact normalize_targetOf hsubDir hquery hhead slash query
  -- what was written fits, and nothing else does
  have hcaptures : route.pattern.captures (r.normalize target) =
      some ((captureNames route.source).zip (codes.map String.ofList)) := by
    rw [hpattern, hnormal, captures_plainPattern, String.toList_ofList,
      head?_fillings_of_fits hroute.delimited hfits]
    rfl
  obtain ⟨params, hparams, hentries⟩ :=
    Route.entries_paramsFor hcaptures hcodes.writes hcodes.length hroute.nodup hroute.static
  refine ⟨params, ?_, hentries⟩
  rw [Router.value_resolve, hroutes]
  exact Router.value_firstMatch_append hbefore hparams

/-- A value beyond ASCII with a space and a slash in it, below a directory and with a query. -/
theorem resolve_accented :
    ∃ params, (((Router.ofConfig { subDir := "/app" }).after
        [.register ((Mapping.ofPattern "/u/:id").withParam "k" "v")]).resolve
          "/app/u/%C3%a9+%2fb/?q=1").value =
        some ⟨⟨plainPattern "/u/:id" .empty, ⟨"WelcomeController", "index"⟩,
          Params.empty.insert "k" "v", .empty⟩, params⟩ ∧
      params.entries = [("id", "é /b"), ("k", "v")] := by
  let m := (Mapping.ofPattern "/u/:id").withParam "k" "v"
  let route : Route :=
    ⟨plainPattern "/u/:id" .empty, ⟨"WelcomeController", "index"⟩, m.params, .empty⟩
  let code : List Char := ['%', 'C', '3', '%', 'a', '9', '+', '%', '2', 'f', 'b']
  have hscan : Piece.scan route.source.toList = [.literal "/u/".toList, .capture ['i', 'd']] := by
    show Piece.scan "/u/:id".toList = _
    simp [Piece.scan, Piece.consLiteral, isNameChar]
  have hnames : captureNames route.source = ["id"] := by
    rw [captureNames, hscan]
    rfl
  have hroute : route.TakesValues :=
    { plain := by rw [hscan]; decide
      free := fun _ _ => rfl
      slash := ⟨_, _, hscan⟩
      delimited := by rw [hscan]; rfl
      nodup := by rw [hnames]; decide
      static := by rw [hnames]; decide }
  have hcompile : compile m.pattern m.conditions = .ok route.pattern := by
    have hfits := compile_plain hroute.plain hroute.free
    rw [hscan] at hfits
    exact hfits
  have htable : ((Router.ofConfig { subDir := "/app" }).after [.register m]).routes =
      [] ++ [route] := by
    rw [Router.after_register_eq]
    simp only [Declaration.route?, hcompile]
    rfl
  have hconfig : ((Router.ofConfig { subDir := "/app" }).after [.register m]).config =
      { subDir := "/app" } := (tracks_after _ _).config
  have hwritten : Percent.Writes (Utf8.encode "é /b".toList) code := by
    have hdigit {n : Nat} {c : Char} (h : n < 16 ∧ (c = Nat.digitChar n ∨
        c = (Nat.digitChar n).toUpper)) : Percent.IsHexDigit c n := h
    exact .escape (h := 12) (l := 3) (hdigit (by decide)) (hdigit (by decide))
      (.escape (h := 10) (l := 9) (hdigit (by decide)) (hdigit (by decide))
        (.plus (.escape (h := 2) (l := 15) (hdigit (by decide)) (hdigit (by decide))
          (.self (by decide) .nil))))
  have hcodes : route.Written ["é /b"] [code] :=
    ⟨by rw [hnames]; rfl, by decide, .cons hwritten .nil⟩
  have htarget : "/app/u/%C3%a9+%2fb/?q=1" =
      targetOf ((Router.ofConfig { subDir := "/app" }).after [.register m]).config.subDir
        (fill (Piece.scan route.source.toList) [code]) true (some ['q', '=', '1']) := by
    rw [hconfig, hscan]
    decide
  obtain ⟨params, hvalue, hentries⟩ := resolve_targetOf ⟨_, _, rfl⟩ htable hroute hcodes
    (by rw [hconfig]; decide) true (some ['q', '=', '1']) htarget (by simp)
  rw [hnames] at hentries
  exact ⟨params, hvalue, hentries⟩

end PathRouter
