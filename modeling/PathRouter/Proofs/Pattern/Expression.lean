import Mathlib.Data.List.Nodup
import PathRouter.Proofs.Pattern.Emitted

/-!
# The expression of a plain pattern

A pattern is plain if nothing in its literal text has a meaning of its own in expressions. Then its
expression is what one would write down from its pieces (`plainExpr`): one class for each literal
character, one group for each capture, anchors at both ends and a slash that may stand at the end.

* `steps_literal` and `steps_closing` are the steps over literal text and over what closes a
  pattern, from any state with the flags of the start.
* `Reached` says what the parser has read at top level after some pieces; `steps_capture` and
  `steps_body` carry it over a capture and over a list of pieces.
* `parse_assemble` is the whole text.
-/

namespace PathRouter

/-- A piece is nested at most one level deeper than its parts. -/
theorem Regex.Piece.depth_join_le {combine : List Regex.Expr → Regex.Expr}
    {parts : List (Regex.Expr × Nat)} {n : Nat} (h : ∀ part ∈ parts, part.2 ≤ n) :
    (Regex.Piece.join combine parts).depth ≤ n + 1 := by
  -- the maximum is a fold, so the bound is carried through it from any start
  have hmax : ∀ (parts : List (Regex.Expr × Nat)) (m : Nat), m ≤ n → (∀ part ∈ parts, part.2 ≤ n) →
      (parts.map (·.2)).foldl Nat.max m ≤ n := by
    intro parts
    induction parts with
    | nil => exact fun m hm _ => hm
    | cons part parts ih =>
      intro m hm h
      obtain ⟨hpart, h⟩ := List.forall_mem_cons.mp h
      exact ih _ (Nat.max_le.mpr ⟨hm, hpart⟩) h
  unfold Regex.Piece.join
  dsimp only
  split
  · exact Nat.zero_le _
  · exact Nat.le_succ_of_le (h _ (List.mem_singleton_self _))
  · exact Nat.succ_le_succ (hmax _ 0 (Nat.zero_le _) h)

/-- Adds pieces, one after the other. -/
def Regex.State.addAll (s : State) (pieces : List Piece) : State :=
  { s with level := { s.level with items := (pieces.map .piece).reverse ++ s.level.items } }

theorem Regex.State.addAll_addAll (s : State) (pieces pieces' : List Piece) :
    (s.addAll pieces).addAll pieces' = s.addAll (pieces ++ pieces') := by
  simp [addAll]

namespace Pattern

open Regex (Expr CharSet State Step Steps Lexeme Token isMeta)

/-! ## Plain pieces -/

namespace Piece

/-- Whether all literal text stands for itself in an expression. -/
def isPlain : Piece → Bool
  | literal text => text.all fun c => !isMeta c
  | capture _ => true

theorem flatMap_source_consLiteral (c : Char) (pieces : List Piece) :
    (consLiteral c pieces).flatMap source = c :: pieces.flatMap source := by
  fun_cases consLiteral c pieces <;> simp [source]

/-- The pieces of a pattern are its text, cut up. -/
theorem flatMap_source_scan (cs : List Char) : (scan cs).flatMap source = cs := by
  fun_induction scan cs with
  | case1 => rfl
  | case2 c rest hcapture hlength ih =>
    rw [List.flatMap_cons, ih, source, hcapture.1, List.cons_append,
      List.takeWhile_append_dropWhile]
  | case3 c rest hliteral ih => rw [flatMap_source_consLiteral, ih]

end Piece

/-- The expression of the capture number `i`. -/
def captureExpr (i : Nat) : Expr :=
  .group (some (groupName i)) (.rep 1 none true (.chars captureSet))

/-- The expressions of some pieces, the first capture being number `i`. -/
def pieceExprs (i : Nat) : List Piece → List Expr
  | [] => []
  | .literal text :: rest => text.map (fun c => .chars (.single c)) ++ pieceExprs i rest
  | .capture _ :: rest => captureExpr i :: pieceExprs (i + 1) rest

/-- The names of the groups of `n` captures, the first being number `i`. -/
def groupNames (i n : Nat) : List String := (List.range' i n).map groupName

theorem nodup_groupNames (i n : Nat) : (groupNames i n).Nodup :=
  List.Nodup.map (fun _ _ h => groupName_inj.mp h) List.nodup_range'

/-- What may stand behind the pieces: a slash, and then the end. -/
def closingExprs : List Expr := [.rep 0 (some 1) true (.chars (.single '/')), .look .textEnd]

/-- The expression of a plain pattern. -/
def plainExpr (pieces : List Piece) : Expr :=
  .cats (.look .textStart :: (pieceExprs 0 pieces ++ closingExprs))

/-! ## Reading the pieces -/

/-- The pieces that `text` is read as. -/
def literalPieces (text : List Char) : List Regex.Piece :=
  text.map fun c => ⟨.chars (.single c), 0⟩

theorem steps_literal {s : State} (hflags : s.level.flags = {}) {text : List Char}
    (htext : ∀ c ∈ text, isMeta c = false) (rest : List Char) :
    ∃ lexemes, Steps s (text ++ rest) lexemes (s.addAll (literalPieces text)) rest := by
  induction text generalizing s with
  | nil => exact ⟨[], .refl s rest⟩
  | cons c text ih =>
    obtain ⟨hc, htext⟩ := List.forall_mem_cons.mp htext
    have hverbose : s.level.flags.verbose = false := by rw [hflags]
    have hread := Token.run_read_literal hverbose hc (text ++ rest)
    have hliteral : Token.literal s.level.flags c = .atom ⟨.chars (.single c), 0⟩ := by
      rw [hflags]
      rfl
    rw [hliteral] at hread
    have hstep := Step.of_run hread (t := s.addAll [⟨.chars (.single c), 0⟩]) rfl
    obtain ⟨lexemes, hsteps⟩ := ih (s := s.addAll [⟨.chars (.single c), 0⟩]) hflags htext
    rw [Regex.State.addAll_addAll] at hsteps
    exact ⟨_, .cons hstep hsteps⟩

/-- The pieces of what closes a pattern. -/
def closingPieces : List Regex.Piece :=
  [⟨.rep 0 (some 1) true (.chars (.single '/')), 1⟩, ⟨.look .textEnd, 0⟩]

theorem steps_closing {s : State} (hflags : s.level.flags = {}) :
    ∃ lexemes, Steps s "/?$".toList lexemes (s.addAll closingPieces) [] := by
  obtain ⟨⟨flags, branches, items⟩, outer, met⟩ := s
  obtain rfl : flags = {} := hflags
  -- behind the slash, behind the quantifier and behind the anchor
  let read (pieces : List Regex.Piece) : State :=
    State.addAll ⟨⟨{}, branches, items⟩, outer, met⟩ pieces
  have hquestion : (Token.read {} '?').run ['$'] = .ok (.quantifier ⟨0, some 1, false⟩, ['$']) :=
    Token.run_read_question rfl (by decide)
  let slash : Regex.Piece := ⟨.rep 0 (some 1) true (.chars (.single '/')), 1⟩
  exact ⟨_, .cons (.of_run (t := read [⟨.chars (.single '/'), 0⟩]) rfl rfl)
    (.cons (.of_run (t := read [slash]) hquestion rfl)
      (.single (.of_run (t := read closingPieces) rfl rfl)))⟩

/-- At top level the parser has read the expressions `es` and met the groups `names`. -/
structure Reached (s : State) (es : List Expr) (names : List String) : Prop where
  flags : s.level.flags = {}
  branches : s.level.branches = []
  outer : s.outer = []
  items : s.level.items.reverse.map (·.expr) = es
  depth : ∀ item ∈ s.level.items, item.depth ≤ 4
  names : s.names.reverse = names

namespace Reached

variable {s : State} {es : List Expr} {names : List String}

/-- A piece more, which may bring in a name. -/
theorem add (h : Reached s es names) {p : Regex.Piece} (hp : p.depth ≤ 4) (new : List String) :
    Reached { s with level := s.level.add p, names := new.reverse ++ s.names }
      (es ++ [p.expr]) (names ++ new) where
  flags := h.flags
  branches := h.branches
  outer := h.outer
  items := by simp [Regex.Level.add, ← h.items, Regex.Item.expr]
  depth := List.forall_mem_cons.mpr ⟨hp, h.depth⟩
  names := by simp [← h.names]

theorem addAll (h : Reached s es names) {pieces : List Regex.Piece}
    (hpieces : ∀ p ∈ pieces, p.depth ≤ 4) :
    Reached (s.addAll pieces) (es ++ pieces.map (·.expr)) names where
  flags := h.flags
  branches := h.branches
  outer := h.outer
  items := by simp [State.addAll, ← h.items, Regex.Item.expr, Function.comp_def]
  depth := by
    intro item hitem
    rcases List.mem_append.mp hitem with hitem | hitem
    · obtain ⟨p, hp, rfl⟩ := List.mem_map.mp (List.mem_reverse.mp hitem)
      exact hpieces p hp
    · exact h.depth item hitem
  names := h.names

/-- At the end of the text the parser gives what it has read. -/
theorem finish (h : Reached s es names) (hnames : names.Nodup) : s.finish = .ok (.cats es) := by
  have hbranch : s.level.branch.expr = .cats es := by
    rw [← h.items]
    simp [Regex.Level.branch, Regex.Piece.join, Function.comp_def]
  have hcontents : s.level.contents = s.level.branch := by
    rw [Regex.Level.contents, h.branches]
    rfl
  have hdepth : s.level.contents.depth ≤ 5 := by
    rw [hcontents]
    refine Regex.Piece.depth_join_le fun part hpart => ?_
    obtain ⟨item, hitem, rfl⟩ := List.mem_map.mp hpart
    exact h.depth item (List.mem_reverse.mp hitem)
  have hnodup : s.names.Nodup := by
    rw [← List.nodup_reverse, h.names]
    exact hnames
  unfold State.finish
  simp only [h.outer]
  rw [if_neg (by unfold State.depthLimit; omega), if_pos hnodup, hcontents, hbranch]

end Reached

theorem steps_capture {s : State} {es : List Expr} {names : List String}
    (h : Reached s es names) (i : Nat) (rest : List Char) :
    ∃ lexemes s', Steps s (groupText i defaultCapture ++ rest) lexemes s' rest ∧
      Reached s' (es ++ [captureExpr i]) (names ++ [groupName i]) := by
  obtain ⟨⟨flags, branches, items⟩, outer, met⟩ := s
  obtain rfl : flags = {} := h.flags
  obtain ⟨tail, htail, hopen⟩ := run_read_groupText {} i defaultCapture rest
  have hclass : defaultCapture.toList ++ ')' :: rest =
      '[' :: ("a-zA-Z0-9_\\+\\-%]".toList ++ '+' :: ')' :: rest) := rfl
  rw [hclass] at hopen
  rw [htail]
  -- the states within the group: it is empty, holds the class, holds the repeated class
  let level : Regex.Level := ⟨{}, branches, items⟩
  let inside (items : List Regex.Item) : State :=
    ⟨⟨{}, [], items⟩, (.capture (some (groupName i)), level) :: outer, groupName i :: met⟩
  have hatom : (Token.read {} '[').run ("a-zA-Z0-9_\\+\\-%]".toList ++ '+' :: ')' :: rest) =
      .ok (.atom ⟨.chars captureSet, 2⟩, '+' :: ')' :: rest) := by
    show (Regex.Bracket.read {} >>= fun p => pure (Token.atom ⟨.chars p.set, p.depth⟩)).run _ = _
    rw [Regex.Reader.run_bind_of_ok (run_bracket_captureSet _)]
    rfl
  have hplus : (Token.read {} '+').run (')' :: rest) =
      .ok (.quantifier ⟨1, none, false⟩, ')' :: rest) :=
    Token.run_read_plus rfl (by simp)
  have hclose : (Token.read {} ')').run rest = .ok (.closeGroup, rest) := rfl
  have hsteps : Steps ⟨level, outer, met⟩ ('(' :: tail) _ ⟨level.add ⟨captureExpr i, 4⟩, outer,
      groupName i :: met⟩ rest :=
    .cons (.of_run (t := inside []) hopen rfl)
      (.cons (.of_run (t := inside [.piece ⟨.chars captureSet, 2⟩]) hatom rfl)
        (.cons (.of_run (t := inside [.piece ⟨.rep 1 none true (.chars captureSet), 3⟩]) hplus rfl)
          (.single (.of_run hclose rfl))))
  exact ⟨_, _, hsteps, h.add (p := ⟨captureExpr i, 4⟩) (Nat.le_refl 4) [groupName i]⟩

theorem steps_body {s : State} {es : List Expr} {names : List String} (h : Reached s es names)
    {conditions : Conditions} {pieces : List Piece} (hplain : ∀ piece ∈ pieces, piece.isPlain)
    (hfree : ∀ name ∈ Piece.names pieces, conditions.get? (String.ofList name) = none)
    (i : Nat) (rest : List Char) :
    ∃ lexemes s', Steps s (body conditions i pieces ++ rest) lexemes s' rest ∧
      Reached s' (es ++ pieceExprs i pieces)
        (names ++ groupNames i (Piece.names pieces).length) := by
  induction pieces generalizing s es names i with
  | nil => exact ⟨[], s, .refl s rest, by simpa [pieceExprs, groupNames, Piece.names] using h⟩
  | cons piece pieces ih =>
    obtain ⟨hpiece, hplain'⟩ := List.forall_mem_cons.mp hplain
    cases piece with
    | literal text =>
      have htext : ∀ c ∈ text, isMeta c = false := by simpa [Piece.isPlain] using hpiece
      obtain ⟨lexemes, hsteps⟩ := steps_literal h.flags htext (body conditions i pieces ++ rest)
      have hs' := h.addAll (show ∀ p ∈ literalPieces text, p.depth ≤ 4 by simp [literalPieces])
      obtain ⟨lexemes', s'', hsteps', hs''⟩ := ih hs' hplain' hfree i
      rw [List.append_assoc, show (literalPieces text).map (·.expr) = text.map fun c =>
        .chars (.single c) from List.map_map] at hs''
      refine ⟨lexemes ++ lexemes', s'', ?_, hs''⟩
      rw [body, List.append_assoc]
      exact hsteps.trans hsteps'
    | capture name =>
      obtain ⟨hname, hfree⟩ := List.forall_mem_cons.mp hfree
      have hinner : inner conditions name = defaultCapture := by rw [inner, hname]; rfl
      obtain ⟨lexemes, s', hsteps, hs'⟩ :=
        steps_capture h i (body conditions (i + 1) pieces ++ rest)
      obtain ⟨lexemes', s'', hsteps', hs''⟩ := ih hs' hplain' hfree (i + 1)
      rw [List.append_assoc, List.append_assoc] at hs''
      refine ⟨lexemes ++ lexemes', s'', ?_, hs''⟩
      rw [body, hinner, List.append_assoc]
      exact hsteps.trans hsteps'

/-! ## The whole text -/

theorem toList_assemble (source : String) (conditions : Conditions) :
    (assemble source conditions).toList =
      '^' :: (body conditions 0 (Piece.scan source.toList) ++ "/?$".toList) := by
  delta assemble
  rw [String.toList_ofList, List.cons_append]

/-- **The text of a plain pattern spells the expression of its pieces.** -/
theorem parse_assemble {source : String} {conditions : Conditions}
    (hplain : ∀ piece ∈ Piece.scan source.toList, piece.isPlain)
    (hfree : ∀ name ∈ captureNames source, conditions.get? name = none) :
    Expr.parse (assemble source conditions).toList =
      .ok (plainExpr (Piece.scan source.toList)) := by
  -- the anchor at the front is read first; then the pieces and what closes a pattern
  let first : State := ⟨⟨{}, [], [.piece ⟨.look .textStart, 0⟩]⟩, [], []⟩
  have hfirst : Reached first [.look .textStart] [] := ⟨rfl, rfl, rfl, rfl, by decide, rfl⟩
  have hfree' : ∀ name ∈ Piece.names (Piece.scan source.toList),
      conditions.get? (String.ofList name) = none :=
    fun name hname => hfree _ (List.mem_map_of_mem hname)
  obtain ⟨_, s, hbody, hs⟩ := steps_body hfirst hplain hfree' 0 "/?$".toList
  obtain ⟨_, hclosing⟩ := steps_closing hs.flags
  have hs' := hs.addAll (show ∀ p ∈ closingPieces, p.depth ≤ 4 by decide)
  have hstart : Step Expr.startState
      ('^' :: (body conditions 0 (Piece.scan source.toList) ++ "/?$".toList)) _ first _ :=
    .of_run rfl rfl
  rw [toList_assemble, Regex.Expr.parse_eq_ok_iff]
  exact ⟨_, _, .cons hstart (hbody.trans hclosing), hs'.finish (nodup_groupNames 0 _)⟩

end Pattern

end PathRouter
