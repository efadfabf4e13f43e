import PathRouter.Proofs.Pattern.Confined

/-!
# Patterns as whole-path matches

The anchors of a pattern are text put around its pieces, and the pieces are put between them as they
stand. So they are anchors of all that the pattern matches unless the pieces have a meaning that
reaches them: a `|` outside of all groups leaves each of them to one alternative, a quantifier at
the front may let the first one go, and a comment or a flag may take the last one away.
`whole_of_anchors` says that nothing else does, and that nothing does where literal text is plain
and conditions are expressions by themselves. `match_ofAlternatives` is a pattern that matches a
proper part of a path.
-/

namespace PathRouter.Pattern

open Regex

/-- The tokens of the expression. -/
def tokens (p : Pattern) : List Token := Regex.tokens p.expression.toList

/-- The anchor in front is the first token. -/
theorem tokens_eq {source : String} {conditions : Conditions} {p : Pattern}
    (h : compile source conditions = .ok p) :
    p.tokens = .atom ⟨.look .textStart, 0⟩ :: p.tokens.tail := by
  obtain ⟨hexpression, -, hparse⟩ := parse_of_compile h
  obtain ⟨lexemes, s, hsteps, -⟩ := Expr.parse_eq_ok_iff.mp hparse
  rw [tokens, Regex.tokens, lexemesFrom_of_steps hsteps]
  rw [hexpression, toList_assemble] at hsteps
  cases hsteps with
  | @cons _ _ _ _ _ _ lexeme lexemes step steps =>
    obtain ⟨c, tail, htext, hread⟩ := step.read
    cases htext
    -- no flag has been set in front of the anchor
    have hanchor : (Token.read {} '^').run
        (body conditions 0 (Piece.scan source.toList) ++ "/?$".toList) =
          .ok (.atom ⟨.look .textStart, 0⟩, _) := rfl
    rw [show Expr.startState.level.flags = {} from rfl, hanchor] at hread
    have htoken : Token.atom ⟨.look .textStart, 0⟩ = lexeme.token :=
      congrArg Prod.fst (Except.ok.inj hread)
    rw [List.map_cons, ← htoken, List.tail_cons]

theorem anchored_confinedExpr (conditions : Conditions) (pieces : List Piece) :
    (confinedExpr conditions pieces).startsAnchored ∧
      (confinedExpr conditions pieces).stopsAnchored := by
  refine ⟨Expr.startsAnchored_cats rfl _, ?_⟩
  show (Expr.cats ((_ :: _) ++ ([_] ++ [_]))).stopsAnchored
  rw [← List.append_assoc]
  exact Expr.stopsAnchored_cats rfl _

/-- **What keeps a match to the whole path.** Without a `|` outside of all groups a match begins at
the start of the path if no quantifier lets the first anchor go, and ends at its end if the last
token is the other anchor, neither swallowed nor turned into the end of a line. Where literal text
is plain and conditions are expressions by themselves, every match is the whole path. -/
theorem whole_of_anchors {source : String} {conditions : Conditions} {p : Pattern}
    (hcompile : compile source conditions = .ok p) {path : String} {m : Match}
    (hfind : p.regex.find? path.toList = some m) :
    (.bar ∉ outermost 0 p.tokens → holdsFast p.tokens.tail → m.start = 0) ∧
      (.bar ∉ outermost 0 p.tokens →
        (∃ depth, p.tokens.getLast? = some (.atom ⟨.look .textEnd, depth⟩)) →
          m.stop = path.toList.length) ∧
      ((∀ piece ∈ Piece.scan source.toList, piece.isPlain) →
        (∀ name ∈ captureNames source, ∀ condition, conditions.get? name = some condition →
          (Regex.compile condition).isOk ∧ '#' ∉ condition.toList) →
          m.start = 0 ∧ m.stop = path.toList.length) := by
  obtain ⟨hexpression, -, hparse⟩ := parse_of_compile hcompile
  obtain ⟨hstart, hstop⟩ := anchored_of_search hfind
  refine ⟨fun hbar hfast => hstart ?_, ?_, ?_⟩
  · exact startsAnchored_of_parse hparse (tokens_eq hcompile) hbar hfast
  · rintro hbar ⟨depth, hlast⟩
    exact hstop (stopsAnchored_of_parse hparse hlast hbar)
  · intro hplain hconditions
    rw [hexpression] at hparse
    have hexpr := expr_eq_confinedExpr hparse hplain (areConfined_of_conditions hconditions)
    obtain ⟨hstarts, hstops⟩ := anchored_confinedExpr conditions (Piece.scan source.toList)
    exact ⟨hstart (hexpr ▸ hstarts), hstop (hexpr ▸ hstops)⟩

/-- Alternatives within groups, those of the literal text and those of conditions, stay between the
anchors. -/
theorem whole_ofGroups :
    ∃ p m, compile "/(a|b)/:id" (Params.empty.insert "id" "[0-9]+|x") = .ok p ∧
      p.regex.find? "/b/x/".toList = some m ∧ m.start = 0 ∧ m.stop = 5 := by
  let conditions := Params.empty.insert "id" "[0-9]+|x"
  have htokens : .bar ∉ outermost 0 (Regex.tokens (assemble "/(a|b)/:id" conditions).toList) ∧
      holdsFast (Regex.tokens (assemble "/(a|b)/:id" conditions).toList).tail ∧
      (Regex.tokens (assemble "/(a|b)/:id" conditions).toList).getLast? =
        some (.atom ⟨.look .textEnd, 0⟩) := by
    decide +kernel
  have hresult : (compile "/(a|b)/:id" conditions).toOption.map
      (fun p => (p.regex.find? "/b/x/".toList).isSome) = some true := by
    decide +kernel
  obtain ⟨p, hcompile, hmatch⟩ := exists_of_map_compile hresult
  obtain ⟨m, hfind⟩ := Option.isSome_iff_exists.mp hmatch
  rw [← (parse_of_compile hcompile).1] at htokens
  obtain ⟨hbar, hfast, hlast⟩ := htokens
  obtain ⟨hstart, hstop, -⟩ := whole_of_anchors hcompile hfind
  exact ⟨p, m, hcompile, hfind, hstart hbar hfast, hstop hbar ⟨0, hlast⟩⟩

/-- A `|` outside of all groups leaves the first alternative without an anchor at its end. -/
theorem match_ofAlternatives :
    (compile "/a|/b" .empty).toOption.map
        (fun p => (p.isMatch "/axyz", p.regex.find? "/axyz".toList)) =
      some (true, some ⟨0, 2, []⟩) := by
  decide +kernel

end PathRouter.Pattern
