import PathRouter.Proofs.Pattern.Cut
import PathRouter.Proofs.Router.RoundTrip

/-!
# Which routes can be reached

Requests are normalized and patterns are not: what a router matches has a slash in front, and no
pattern is given one. So a route is reached by some target just when it matches some path with a
slash in front and no query (`Router.exists_resolve_iff`), wherever the router is mounted. With a
letter for each of its captures a plain pattern is a path that it matches; and the path has that
slash where the pattern has it, as no value starts with a slash (`exists_fits_slash_iff`).
-/

namespace PathRouter

open Pattern

/-! ## The paths of a pattern -/

namespace Pattern

/-- A letter for every capture. -/
def letters (pieces : List Piece) : List (List Char) := (Piece.names pieces).map fun _ => ['a']

theorem fits_letters (pieces : List Piece) :
    Fits pieces (letters pieces) (fill pieces (letters pieces)) where
  length := List.length_map _
  valid := by
    intro value hvalue
    obtain ⟨name, -, rfl⟩ := List.mem_map.mp hvalue
    decide
  covers := .inl rfl

/-- A plain literal has no question mark, and no capture takes one. -/
theorem not_mem_fill {pieces : List Piece} {values : List (List Char)}
    (hplain : ∀ piece ∈ pieces, piece.isPlain) (hvalid : ∀ value ∈ values, isCaptureValue value) :
    '?' ∉ fill pieces values := by
  intro hmem
  refine forall_mem_fill (P := (· ≠ '?')) ?_ ?_ '?' hmem rfl
  · rintro text htext c hc rfl
    exact absurd (List.all_eq_true.mp (hplain _ htext) _ hc) (by decide)
  · rintro value hvalue c hc rfl
    have hchars : value.all isCaptureChar := (Bool.and_eq_true_iff.mp (hvalid value hvalue)).2
    exact absurd (List.all_eq_true.mp hchars _ hc) (by decide)

theorem fill_consLiteral (c : Char) (pieces : List Piece) (values : List (List Char)) :
    fill (Piece.consLiteral c pieces) values = c :: fill pieces values := by
  fun_cases Piece.consLiteral c pieces with
  | case1 text rest => rfl
  | case2 => rfl

theorem head?_fill_scan {source : List Char} (h : source.head? = some '/')
    (values : List (List Char)) : (fill (Piece.scan source) values).head? = some '/' := by
  obtain ⟨rest, rfl⟩ := List.head?_eq_some_iff.mp h
  rw [Piece.scan_literal (by simp), fill_consLiteral]
  rfl

/-- What fits a path with a slash in front has one itself, if it is anything. -/
theorem head?_of_fits {source rest : List Char} {values : List (List Char)}
    (h : Fits (Piece.scan source) values ('/' :: rest)) :
    source = [] ∨ source.head? = some '/' := by
  fun_cases Piece.scan source with
  | case1 => exact .inl rfl
  | case2 c tail hcapture hlength =>
    -- the value of the capture would start with the slash
    rw [hcapture.1, Piece.scan_capture hcapture.2] at h
    obtain ⟨n, hn, -⟩ := fits_capture.mp h
    cases hn
  | case3 c tail hliteral =>
    have hcolon : c = ':' → ∀ d ∈ tail.head?, isNameChar d = false := fun hc =>
      takeWhile_isNameChar_eq_nil_iff.mp (not_not.mp fun hname => hliteral ⟨hc, hname⟩)
    have hcovers := h.covers
    rw [Piece.scan_literal hcolon, fill_consLiteral] at hcovers
    obtain rfl : '/' = c := by
      rcases hcovers with hpath | hpath <;> exact (List.cons.inj hpath).1
    exact .inr rfl

/-- A plain pattern matches some path with a slash in front and no query just when it has the slash
itself, or is empty, as the slash is then that at the end. -/
theorem exists_isMatch_slash_iff {source : String} (conditions : Conditions)
    (hplain : ∀ piece ∈ Piece.scan source.toList, piece.isPlain) :
    (∃ rest, '?' ∉ rest ∧
        (plainPattern source conditions).isMatch (String.ofList ('/' :: rest))) ↔
      source = "" ∨ source.toList.head? = some '/' := by
  simp only [isMatch_plainPattern, String.toList_ofList]
  constructor
  · rintro ⟨rest, -, values, hfits⟩
    exact (head?_of_fits hfits).imp_left fun hnil => String.toList_inj.mp hnil
  · rintro (rfl | hslash)
    · refine ⟨[], List.not_mem_nil, [], ?_⟩
      rw [String.toList_empty, Piece.scan]
      exact fits_nil.mpr ⟨rfl, .inr rfl⟩
    · have hfits := fits_letters (Piece.scan source.toList)
      have hmark := not_mem_fill hplain hfits.valid
      obtain ⟨rest, hrest⟩ := List.head?_eq_some_iff.mp
        (head?_fill_scan hslash (letters (Piece.scan source.toList)))
      rw [hrest] at hfits hmark
      exact ⟨rest, fun hmem => hmark (List.mem_cons_of_mem _ hmem), _, hfits⟩

end Pattern

/-! ## The targets of a route -/

namespace Router

/-- A route alone is found where it matches, so that it is reached just when it matches a path that
targets are normalized to. -/
theorem exists_resolve_iff {r : Router} {route : Route} (hroutes : r.routes = [route]) :
    (∃ target params, (r.resolve target).value = some ⟨route, params⟩) ↔
      ∃ rest, '?' ∉ rest ∧ route.isMatch (String.ofList ('/' :: rest)) := by
  have hresolve (target : String) : (∃ params, (r.resolve target).value = some ⟨route, params⟩) ↔
      route.isMatch (r.normalize target) := by
    rw [value_resolve, hroutes, ← Route.isSome_paramsFor, Option.isSome_iff_exists]
    refine exists_congr fun params => ?_
    rw [value_firstMatch, List.findSome?_singleton, matchOf_eq_some_iff]
    exact and_iff_right rfl
  simp only [hresolve]
  constructor
  · rintro ⟨target, hmatch⟩
    obtain ⟨rest, hnormal, hrest⟩ := Path.exists_normalize_eq target r.config.subDir
    exact ⟨rest, hrest, by rwa [← hnormal]⟩
  · rintro ⟨rest, hrest, hmatch⟩
    obtain ⟨target, htarget⟩ := (Path.exists_normalize_eq_iff r.config.subDir).mpr
      ⟨rfl, List.not_mem_cons_of_ne_of_not_mem (by decide) hrest⟩
    exact ⟨target, by rwa [normalize, htarget]⟩

section Register

variable {m : Mapping} (hplain : ∀ piece ∈ Piece.scan m.pattern.toList, piece.isPlain)
  (hfree : ∀ name ∈ captureNames m.pattern, m.conditions.get? name = none)

include hplain hfree

/-- An empty router takes a plain mapping unless its expression is too long. -/
theorem exists_register_iff (config : Config) :
    (∃ r, ((Router.ofConfig config).register m).value = .ok r) ↔
      (plainExpr (Piece.scan m.pattern.toList)).weight ≤ Regex.weightLimit := by
  simp only [value_register_eq_ok_iff, Declaration.route?, compile_plain hplain hfree]
  by_cases hweight : Regex.weightLimit < (plainExpr (Piece.scan m.pattern.toList)).weight
  · simp [hweight]
  · simp [hweight, Router.ofConfig, Nat.le_of_not_lt hweight]

/-- It holds the route of that mapping then. -/
theorem routes_of_register {config : Config} {r : Router}
    (hregister : ((Router.ofConfig config).register m).value = .ok r) :
    r.routes = [⟨plainPattern m.pattern m.conditions, (Declaration.mk m config).handler, m.params,
      m.conditions⟩] := by
  obtain ⟨route, hroute, -, rfl⟩ := value_register_eq_ok_iff.mp hregister
  obtain ⟨pattern, hcompile, rfl⟩ := Declaration.route?_eq_some_iff.mp hroute
  rw [eq_plainPattern hcompile hplain hfree]
  rfl

end Register

end Router

/-- **Which plain routes can be reached.** Of the plain mappings that a router takes as its first,
those can be reached whose pattern has a slash in front or is empty, and no other: there is a target
that the route is found for, whatever directory the router is mounted in. -/
theorem reachable_iff {config : Config} {m : Mapping} {r : Router}
    (hregister : ((Router.ofConfig config).register m).value = .ok r)
    (hplain : ∀ piece ∈ Piece.scan m.pattern.toList, piece.isPlain)
    (hfree : ∀ name ∈ captureNames m.pattern, m.conditions.get? name = none) :
    ∃ route, r.routes = [route] ∧ route.source = m.pattern ∧
      ((∃ target params, (r.resolve target).value = some ⟨route, params⟩) ↔
        m.pattern = "" ∨ m.pattern.toList.head? = some '/') := by
  have hroutes := Router.routes_of_register hplain hfree hregister
  refine ⟨_, hroutes, rfl, ?_⟩
  rw [Router.exists_resolve_iff hroutes]
  exact exists_isMatch_slash_iff m.conditions hplain

/-- A route below a directory. -/
theorem reachable_mounted :
    ∃ r, ((Router.ofConfig { subDir := "/app" }).register (.ofPattern "/u/:id")).value = .ok r ∧
      ∃ route, r.routes = [route] ∧
        ∃ target params, (r.resolve target).value = some ⟨route, params⟩ := by
  have hscan : Piece.scan "/u/:id".toList = [.literal "/u/".toList, .capture ['i', 'd']] := by
    simp [Piece.scan, Piece.consLiteral, isNameChar]
  let m := Mapping.ofPattern "/u/:id"
  have hplain : ∀ piece ∈ Piece.scan m.pattern.toList, piece.isPlain := by
    rw [show m.pattern = "/u/:id" from rfl, hscan]
    decide
  have hfree : ∀ name ∈ captureNames m.pattern, m.conditions.get? name = none := fun _ _ => rfl
  have hweight : (plainExpr (Piece.scan m.pattern.toList)).weight ≤ Regex.weightLimit := by
    rw [show m.pattern = "/u/:id" from rfl, hscan]
    decide
  obtain ⟨r, hr⟩ := (Router.exists_register_iff hplain hfree { subDir := "/app" }).mpr hweight
  obtain ⟨route, hroutes, -, hreach⟩ := reachable_iff hr hplain hfree
  exact ⟨r, hr, route, hroutes, hreach.mpr (.inr (by decide))⟩

/-- A pattern without a slash in front is taken, but no target leads to its route. -/
theorem unreachable_about :
    (∀ piece ∈ Piece.scan (Mapping.ofPattern "about").pattern.toList, piece.isPlain) ∧
      (Mapping.ofPattern "about").conditions = .empty ∧
      ∃ r route, ((Router.ofConfig {}).register (.ofPattern "about")).value = .ok r ∧
        r.routes = [route] ∧
        ¬ ∃ target params, (r.resolve target).value = some ⟨route, params⟩ := by
  have hscan : Piece.scan "about".toList = [.literal "about".toList] := by
    simp [Piece.scan, Piece.consLiteral]
  let m := Mapping.ofPattern "about"
  have hplain : ∀ piece ∈ Piece.scan m.pattern.toList, piece.isPlain := by
    rw [show m.pattern = "about" from rfl, hscan]
    decide
  have hfree : ∀ name ∈ captureNames m.pattern, m.conditions.get? name = none := fun _ _ => rfl
  have hweight : (plainExpr (Piece.scan m.pattern.toList)).weight ≤ Regex.weightLimit := by
    rw [show m.pattern = "about" from rfl, hscan]
    decide
  obtain ⟨r, hr⟩ := (Router.exists_register_iff hplain hfree {}).mpr hweight
  have hroutes := Router.routes_of_register hplain hfree hr
  refine ⟨hplain, rfl, r, _, hr, hroutes, ?_⟩
  rw [Router.exists_resolve_iff hroutes]
  exact fun hmatch => absurd ((exists_isMatch_slash_iff _ hplain).mp hmatch) (by decide)

end PathRouter
