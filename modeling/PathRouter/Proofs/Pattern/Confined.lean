import PathRouter.Proofs.Pattern.CaptureGroups
import PathRouter.Proofs.Pattern.Expression
import PathRouter.Proofs.Pattern.Filling
import PathRouter.Proofs.Regex.Anchors
import PathRouter.Proofs.Regex.Enclosed

/-!
# Conditions stay within their captures

The condition of a capture is put into the expression of a pattern as it stands. If it is an
expression by itself, then it is one within its group, too: whatever alternatives, flags, anchors
and groups it has, the pattern is read as its literal text and one group for each capture, which
holds what the condition spells (`confinedExpr`). So a path that matches is the pattern with its
captures replaced by their values.

* `steps_held` is the run of the parser over the pieces of a pattern, whatever its groups hold.
* `Filled` says what the groups of the captures have matched on a way through the rest of a
  pattern; `exists_filled` takes any such way apart.
* `captures_confined` is about whole paths.
-/

namespace PathRouter.Pattern

open Regex

/-! ## The expression -/

/-- What `text` spells by itself. -/
def spelled (text : String) : Expr := (Regex.compile text).toOption.elim .empty (·.expr)

/-- The expressions of some pieces, the first capture being number `i`, if the group of each capture
holds what `held` says. -/
def heldExprs (held : List Char → Expr) (i : Nat) : List Piece → List Expr
  | [] => []
  | .literal text :: rest => text.map (fun c => .chars (.single c)) ++ heldExprs held i rest
  | .capture name :: rest => .group (some (groupName i)) (held name) :: heldExprs held (i + 1) rest

/-- The expression of such a pattern. -/
def heldExpr (held : List Char → Expr) (pieces : List Piece) : Expr :=
  .cats (.look .textStart :: (heldExprs held 0 pieces ++ closingExprs))

/-- The expression of a pattern in which each group holds what its condition spells. -/
def confinedExpr (conditions : Conditions) (pieces : List Piece) : Expr :=
  heldExpr (fun name => spelled (inner conditions name)) pieces

/-- What captures match is an expression by itself, and no comment can swallow what is behind it. -/
def AreConfined (conditions : Conditions) (names : List (List Char)) : Prop :=
  ∀ name ∈ names, (Regex.compile (inner conditions name)).isOk ∧
    '#' ∉ (inner conditions name).toList

theorem parse_of_isOk {text : String} (h : (Regex.compile text).isOk) :
    Expr.parse text.toList = .ok (spelled text) := by
  have hspelled : (Regex.compile text).toOption.elim .empty (·.expr) = spelled text := rfl
  unfold Regex.compile at h hspelled
  cases hparse : Expr.parse text.toList with
  | error e =>
    rw [hparse] at h
    cases h
  | ok e =>
    rw [hparse] at h hspelled
    dsimp only at h hspelled
    split at h
    · cases h
    · next hweight =>
      rw [if_neg hweight] at hspelled
      rw [← hspelled]
      rfl

/-! ## Reading the pieces -/

/-- The run over pieces of which the literal text is plain, and each group holds what is said. -/
theorem steps_held {conditions : Conditions} {held : List Char → Expr} {pieces : List Piece}
    (hplain : ∀ piece ∈ pieces, piece.isPlain)
    (hheld : ∀ name ∈ Piece.names pieces, SpellsWithin (inner conditions name).toList (held name))
    {s : State} (hflags : s.level.flags = {}) (i : Nat) (rest : List Char) :
    ∃ lexemes read met, read.map (·.expr) = heldExprs held i pieces ∧
      Steps s (body conditions i pieces ++ rest) lexemes { s.addAll read with names := met }
        rest := by
  induction pieces generalizing s i with
  | nil => exact ⟨[], [], s.names, rfl, .refl s rest⟩
  | cons piece pieces ih =>
    obtain ⟨hpiece, hplain'⟩ := List.forall_mem_cons.mp hplain
    cases piece with
    | literal text =>
      have htext : ∀ c ∈ text, isMeta c = false := by simpa [Piece.isPlain] using hpiece
      obtain ⟨lexemes, hsteps⟩ := steps_literal hflags htext (body conditions i pieces ++ rest)
      obtain ⟨lexemes', read, met, hread, hsteps'⟩ :=
        ih hplain' hheld (s := s.addAll (literalPieces text)) hflags i
      rw [State.addAll_addAll] at hsteps'
      refine ⟨lexemes ++ lexemes', literalPieces text ++ read, met, ?_, ?_⟩
      · simp [literalPieces, heldExprs, hread, Function.comp_def]
      · rw [body, List.append_assoc]
        exact hsteps.trans hsteps'
    | capture name =>
      obtain ⟨hspells, hheld⟩ := List.forall_mem_cons.mp hheld
      obtain ⟨tail, htail, hopen⟩ := run_read_groupText s.level.flags i (inner conditions name)
        (body conditions (i + 1) pieces ++ rest)
      -- the group opens, holds what its text spells and is closed
      obtain ⟨lexemes, depth, met, hsteps⟩ := hspells s.level hflags (some (groupName i)) s.outer
        (groupName i :: s.names) (body conditions (i + 1) pieces ++ rest)
      have hgroup := Steps.cons (.of_run hopen rfl) hsteps
      let group : Regex.Piece := ⟨.group (some (groupName i)) (held name), depth⟩
      obtain ⟨lexemes', read, met', hread, hsteps'⟩ :=
        ih hplain' hheld (s := { s.addAll [group] with names := met }) hflags (i + 1)
      have haddAll : { ({ s.addAll [group] with names := met } : State).addAll read with
          names := met' } = { s.addAll (group :: read) with names := met' } := by
        simp [State.addAll]
      rw [haddAll] at hsteps'
      have hexprs : (group :: read).map (·.expr) = heldExprs held i (.capture name :: pieces) := by
        rw [List.map_cons, hread, heldExprs]
      rw [body, List.append_assoc, htail]
      exact ⟨_, group :: read, met', hexprs, hgroup.trans hsteps'⟩

/-- **The text of a pattern spells just what its groups hold in them.** -/
theorem expr_eq_heldExpr {source : String} {conditions : Conditions} {held : List Char → Expr}
    {e : Expr} (hparse : Expr.parse (assemble source conditions).toList = .ok e)
    (hplain : ∀ piece ∈ Piece.scan source.toList, piece.isPlain)
    (hheld : ∀ name ∈ Piece.names (Piece.scan source.toList),
      SpellsWithin (inner conditions name).toList (held name)) :
    e = heldExpr held (Piece.scan source.toList) := by
  let first : State := Expr.startState.addAll [⟨.look .textStart, 0⟩]
  obtain ⟨_, read, met, hread, hbody⟩ :=
    steps_held hplain hheld (s := first) rfl 0 "/?$".toList
  obtain ⟨_, hclosing⟩ := steps_closing (s := { first.addAll read with names := met }) rfl
  have hstart : Step Expr.startState
      ('^' :: (body conditions 0 (Piece.scan source.toList) ++ "/?$".toList)) _ first _ :=
    .of_run rfl rfl
  have hsteps := Steps.cons hstart (hbody.trans hclosing)
  rw [toList_assemble, Expr.parse_eq_ok_iff] at hparse
  obtain ⟨_, s, hsteps', hfinish⟩ := hparse
  -- the steps over a text are determined, and these end at top level, where all pieces are
  obtain rfl := Expr.state_eq_of_steps hsteps' hsteps
  obtain ⟨-, -, rfl⟩ := State.finish_eq_ok hfinish
  rw [Level.expr_contents rfl, heldExpr, ← hread]
  congr 1
  simp [State.addAll, first, Item.expr, closingPieces, closingExprs, Expr.startState, Level.start,
    Function.comp_def]

theorem spellsWithin_of_areConfined {conditions : Conditions} {names : List (List Char)}
    (h : AreConfined conditions names) {name : List Char} (hname : name ∈ names) :
    SpellsWithin (inner conditions name).toList (spelled (inner conditions name)) :=
  spellsWithin_of_parse (parse_of_isOk (h name hname).1) (h name hname).2

theorem expr_eq_confinedExpr {source : String} {conditions : Conditions} {e : Expr}
    (hparse : Expr.parse (assemble source conditions).toList = .ok e)
    (hplain : ∀ piece ∈ Piece.scan source.toList, piece.isPlain)
    (hconfined : AreConfined conditions (Piece.names (Piece.scan source.toList))) :
    e = confinedExpr conditions (Piece.scan source.toList) :=
  expr_eq_heldExpr hparse hplain fun _ => spellsWithin_of_areConfined hconfined

/-! ## Taking ways apart -/

theorem rest_of_literal {text : List Char} {goals : List Goal} {p : Place} {w : Way}
    (h : GoalsLead (text.map (fun c => .expr (.chars (.single c))) ++ goals) p w) :
    text <+: p.rest ∧ GoalsLead goals (p.skip text.length) w := by
  induction text generalizing p w with
  | nil => exact ⟨List.nil_prefix, by rwa [List.length_nil, Place.skip_zero]⟩
  | cons c text ih =>
    cases h with
    | cons first more =>
      cases first with
      | @chars _ _ d rest hrest hd =>
        obtain rfl : d = c := by simpa [CharSet.contains_single] using hd
        obtain ⟨hfront, hmore⟩ := ih more
        refine ⟨?_, ?_⟩
        · rw [hrest]
          exact List.cons_prefix_cons.mpr ⟨rfl, hfront⟩
        · rw [Way.behind_nil, List.length_cons, Place.skip_succ hrest]
          exact hmore

theorem rest_of_closing {p : Place} {w : Way} (h : GoalsLead (closingExprs.map .expr) p w) :
    p.rest = [] ∨ p.rest = ['/'] := by
  obtain _ | ⟨hslash, hmore⟩ := h
  obtain _ | ⟨hend, -⟩ := hmore
  -- nothing is left behind the slash, if there is one
  have hnil := hend.rest_eq_nil rfl
  rw [hend.stop_eq rfl] at hnil
  cases hslash with
  | repStop => exact .inl hnil
  | repUpTo round more =>
    cases more with
    | repStop =>
      cases round with
      | @chars _ _ c rest hrest hc =>
        obtain rfl : c = '/' := by simpa [CharSet.contains_single] using hc
        obtain rfl : rest = [] := hnil
        exact .inr hrest

theorem mem_groups_heldExprs (held : List Char → Expr) {pieces : List Piece} {j : Nat}
    (hj : j < (Piece.names pieces).length) (i : Nat) :
    some (groupName (i + j)) ∈ (heldExprs held i pieces).flatMap Expr.groups := by
  induction pieces generalizing i j with
  | nil => exact absurd hj (Nat.not_lt_zero j)
  | cons piece pieces ih =>
    cases piece with
    | literal text =>
      rw [heldExprs, List.flatMap_append]
      exact List.mem_append_right _ (ih hj i)
    | capture name =>
      rw [heldExprs, List.flatMap_cons]
      cases j with
      | zero => exact List.mem_append_left _ List.mem_cons_self
      | succ j =>
        have hmem := ih (Nat.lt_of_succ_lt_succ hj) (i + 1)
        rw [show i + 1 + j = i + (j + 1) by omega] at hmem
        exact List.mem_append_right _ hmem

/-- Where no name comes twice, those in a group, its own included, are not in it again and not
behind it. -/
theorem names_apart {name : String} {e : Expr} {es : List Expr}
    (h : ((.group (some name) e :: es).flatMap Expr.groups).reduceOption.Nodup) :
    some name ∉ e.groups ∧ (es.flatMap Expr.groups).reduceOption.Nodup ∧
      ∀ other, other = name ∨ some other ∈ e.groups → some other ∉ es.flatMap Expr.groups := by
  rw [List.flatMap_cons, List.reduceOption_append, List.nodup_append, Expr.groups,
    List.reduceOption_cons_of_some, List.nodup_cons] at h
  obtain ⟨⟨hown, -⟩, hothers, hdisjoint⟩ := h
  refine ⟨fun hmem => hown (List.reduceOption_mem_iff.mpr hmem), hothers,
    fun other hother hmem => ?_⟩
  exact hdisjoint other (List.mem_cons.mpr (hother.imp_right List.reduceOption_mem_iff.mpr)) other
    (List.reduceOption_mem_iff.mpr hmem) rfl

theorem mark_mem_groups_of_goalsLead {es : List Expr} {p : Place} {w : Way}
    (h : GoalsLead (es.map .expr) p w) :
    ∀ mark ∈ w.marks, some mark.name ∈ es.flatMap Expr.groups := by
  rw [← Expr.groups_cats]
  exact (Expr.leads_cats.mpr h).mark_mem_groups

/-- With some values in their captures the pieces are the rest of the path, and these values are
what the groups of the captures matched. -/
structure Filled (path : List Char) (i : Nat) (pieces : List Piece) (p : Place) (marks : List Mark)
    (values : List (List Char)) : Prop where
  length : values.length = (Piece.names pieces).length
  covers : p.rest = fill pieces values ∨ p.rest = fill pieces values ++ ['/']
  groups : ∀ j value, values[j]? = some value → ∀ start stop,
    Match.group? ⟨start, stop, marks⟩ path (groupName (i + j)) = some value

namespace Filled

variable {path : List Char} {i : Nat} {pieces : List Piece} {p : Place} {marks : List Mark}
  {values : List (List Char)}

theorem literal {text : List Char} (htext : text <+: p.rest)
    (h : Filled path i pieces (p.skip text.length) marks values) :
    Filled path i (.literal text :: pieces) p marks values where
  length := h.length
  covers := by
    obtain ⟨rest, hrest⟩ := htext
    have hcovers := h.covers
    rw [Place.rest_skip, ← hrest, List.drop_left] at hcovers
    rw [← hrest, fill, List.append_assoc]
    exact hcovers.imp (congrArg (text ++ ·)) (congrArg (text ++ ·))
  groups := h.groups

theorem capture {n : Nat} {inside : List Mark} {name : List Char} (hn : n ≤ p.rest.length)
    (hpath : p.rest = path.drop p.pos) (hinside : ∀ mark ∈ inside, mark.name ≠ groupName i)
    (hlater : ∀ mark ∈ marks, mark.name ≠ groupName i)
    (hothers : ∀ j < values.length, ∀ mark ∈ inside, mark.name ≠ groupName (i + 1 + j))
    (h : Filled path (i + 1) pieces (p.skip n) marks values) :
    Filled path i (.capture name :: pieces) p
      (marks ++ .closed (groupName i) (p.skip n).pos :: (inside ++ [.opened (groupName i) p.pos]))
      (p.rest.take n :: values) where
  length := congrArg (· + 1) h.length
  covers := by
    have hcovers := h.covers
    rw [Place.rest_skip] at hcovers
    rcases hcovers with hcovers | hcovers
    · exact .inl (by rw [fill, ← hcovers, List.take_append_drop])
    · exact .inr (by rw [fill, List.append_assoc, ← hcovers, List.take_append_drop])
  groups := by
    intro j value hvalue start stop
    cases j with
    | zero =>
      obtain rfl : p.rest.take n = value := by simpa using hvalue
      rw [Nat.add_zero, Match.group?_append_right hlater, Match.group?_between hinside,
        Match.slice, ← hpath, Place.pos_skip hn, Nat.add_sub_cancel_left]
    | succ j =>
      rw [List.getElem?_cons_succ] at hvalue
      have hj : j < values.length := (List.getElem?_eq_some_iff.mp hvalue).1
      have hown : groupName i ≠ groupName (i + 1 + j) := by
        rw [Ne, groupName_inj]
        omega
      rw [show i + (j + 1) = i + 1 + j by omega, Match.group?_append_left]
      · exact h.groups j value hvalue start stop
      · intro mark hmark
        rcases List.mem_cons.mp hmark with rfl | hmark
        · exact hown
        rcases List.mem_append.mp hmark with hmark | hmark
        · exact hothers j hj mark hmark
        · rw [List.mem_singleton.mp hmark]
          exact hown

end Filled

/-- **Every way through such expressions is the pieces with some values in their captures.** -/
theorem exists_filled {held : List Char → Expr} {pieces : List Piece} {i : Nat} {p : Place}
    {w : Way} (h : GoalsLead ((heldExprs held i pieces ++ closingExprs).map .expr) p w)
    (hnames : ((heldExprs held i pieces).flatMap Expr.groups).reduceOption.Nodup)
    {path : List Char} (hpath : p.rest = path.drop p.pos) :
    ∃ values, Filled path i pieces p w.marks values := by
  induction pieces generalizing i p w with
  | nil =>
    refine ⟨[], rfl, ?_, fun j value hvalue => by simp at hvalue⟩
    simpa [fill] using rest_of_closing h
  | cons piece pieces ih =>
    -- where the rest of the pieces begins, the rest of the path does
    have hskip {n : Nat} (hn : n ≤ p.rest.length) :
        (p.skip n).rest = path.drop (p.skip n).pos := by
      rw [Place.rest_skip, Place.pos_skip hn, hpath, List.drop_drop]
    cases piece with
    | literal text =>
      rw [heldExprs, List.append_assoc, List.map_append, List.map_map] at h
      obtain ⟨htext, hmore⟩ := rest_of_literal h
      have hnone : (text.map fun c => Expr.chars (.single c)).flatMap Expr.groups = [] := by
        simp [List.flatMap_map, Expr.groups]
      rw [heldExprs, List.flatMap_append, hnone] at hnames
      obtain ⟨values, hfilled⟩ := ih hmore hnames (hskip htext.length_le)
      exact ⟨values, hfilled.literal htext⟩
    | capture name =>
      rw [heldExprs, List.cons_append, List.map_cons] at h
      obtain _ | ⟨first, hmore⟩ := h
      cases first with
      | @groupNamed _ _ _ v hinner =>
        obtain ⟨n, hn, hstop⟩ := hinner.exists_skip
        rw [hstop] at hmore
        obtain ⟨hown, hothers, hapart⟩ := names_apart hnames
        have hinside : ∀ mark ∈ v.marks, some mark.name ∈ (held name).groups :=
          hinner.mark_mem_groups
        obtain ⟨values, hfilled⟩ := ih hmore hothers (hskip hn)
        refine ⟨p.rest.take n :: values, ?_⟩
        rw [Way.behind_marks, hstop]
        refine hfilled.capture hn hpath ?_ ?_ ?_
        · intro mark hmark heq
          exact hown (heq ▸ hinside mark hmark)
        · intro mark hmark heq
          have hmem := mark_mem_groups_of_goalsLead hmore mark hmark
          rw [List.flatMap_append, show closingExprs.flatMap Expr.groups = [] from rfl,
            List.append_nil] at hmem
          exact hapart _ (.inl heq) hmem
        · intro j hj mark hmark heq
          refine hapart _ (.inr (hinside mark hmark)) ?_
          rw [heq]
          exact mem_groups_heldExprs held (hfilled.length ▸ hj) (i + 1)

/-! ## Whole paths -/

theorem groups_heldExpr (held : List Char → Expr) (pieces : List Piece) :
    (heldExpr held pieces).groups = (heldExprs held 0 pieces).flatMap Expr.groups := by
  simp [heldExpr, Expr.groups_cats, closingExprs, Expr.groups]

theorem areConfined_of_conditions {source : String} {conditions : Conditions}
    (hconditions : ∀ name ∈ captureNames source, ∀ condition,
      conditions.get? name = some condition →
        (Regex.compile condition).isOk ∧ '#' ∉ condition.toList) :
    AreConfined conditions (Piece.names (Piece.scan source.toList)) := by
  intro name hname
  have hcondition := hconditions (String.ofList name) (List.mem_map_of_mem hname)
  unfold inner
  cases hget : conditions.get? (String.ofList name) with
  | none => exact ⟨by decide +kernel, by decide⟩
  | some condition => exact hcondition condition hget

theorem exists_filled_of_search {held : List Char → Expr} {pieces : List Piece} {path : List Char}
    {m : Match} (hnames : (heldExpr held pieces).groups.reduceOption.Nodup)
    (h : (heldExpr held pieces).search path = some m) :
    ∃ values p, p.rest = path ∧ Filled path 0 pieces p m.marks values := by
  obtain ⟨p, hp, w, hleads, rfl⟩ := leads_of_search h
  obtain ⟨hbefore, -, hpath⟩ := Place.of_mem_onward hp
  obtain _ | ⟨first, hmore⟩ := Expr.leads_cats.mp hleads
  cases first with
  | look holds =>
    have hpos : p.pos = 0 := hbefore (by simpa [Look.holds, Place.around] using holds)
    rw [groups_heldExpr] at hnames
    obtain ⟨values, hfilled⟩ := exists_filled hmore hnames hpath
    rw [hpos, List.drop_zero] at hpath
    refine ⟨values, p, hpath, ?_⟩
    rw [Way.behind_nil]
    exact hfilled

/-- **Conditions stay within their captures.** Where literal text has no meaning of its own and each
condition that is used is an expression by itself, without `#`, a pattern is read as its literal
characters, one group for each capture with what the condition spells in it, and what closes a
pattern. A path that matches is the pattern with the values that are captured in the place of the
captures, with a slash more at its end or not. -/
theorem captures_confined {source : String} {conditions : Conditions} {p : Pattern}
    (hcompile : compile source conditions = .ok p)
    (hplain : ∀ piece ∈ Piece.scan source.toList, piece.isPlain)
    (hconditions : ∀ name ∈ captureNames source, ∀ condition,
      conditions.get? name = some condition →
        (Regex.compile condition).isOk ∧ '#' ∉ condition.toList) :
    p.regex.expr = confinedExpr conditions (Piece.scan source.toList) ∧
      ∀ path : String, p.isMatch path → ∃ values : List (List Char),
        values.length = (captureNames source).length ∧
        p.captures path = some ((captureNames source).zip (values.map String.ofList)) ∧
        (path.toList = fill (Piece.scan source.toList) values ∨
          path.toList = fill (Piece.scan source.toList) values ++ ['/']) := by
  obtain ⟨hexpression, hnames, hparse⟩ := parse_of_compile hcompile
  have hgroups := nodup_reduceOption_groups hparse
  rw [hexpression] at hparse
  have hexpr := expr_eq_confinedExpr hparse hplain (areConfined_of_conditions hconditions)
  rw [hexpr] at hgroups
  refine ⟨hexpr, fun path hmatch => ?_⟩
  obtain ⟨m, hfind⟩ := Option.isSome_iff_exists.mp hmatch
  have hsearch : (confinedExpr conditions (Piece.scan source.toList)).search path.toList = some m :=
    hexpr ▸ hfind
  obtain ⟨values, q, hrest, hfilled⟩ := exists_filled_of_search hgroups hsearch
  have hlength : values.length = (captureNames source).length := by
    rw [hfilled.length, captureNames, List.length_map]
  refine ⟨values, hlength, ?_, hrest ▸ hfilled.covers⟩
  rw [← hnames] at hlength ⊢
  refine captures_eq_zip hfind hlength fun i value hvalue => ⟨?_, ?_⟩
  · -- the group of each capture is there, so that none falls back to the whole match
    have hi : i < (Piece.names (Piece.scan source.toList)).length :=
      hfilled.length ▸ (List.getElem?_eq_some_iff.mp hvalue).1
    have hmem := mem_groups_heldExprs (fun name => spelled (inner conditions name)) hi 0
    rw [← groups_heldExpr, ← confinedExpr, ← hexpr, Nat.zero_add] at hmem
    exact List.contains_iff_mem.mpr hmem
  · have hvalue' := hfilled.groups i value hvalue m.start m.stop
    rwa [Nat.zero_add] at hvalue'

/-- An alternative and a flag in one condition end with its group, and a group in another one is not
taken for that of a capture. -/
theorem captures_ofOwnGroups :
    ∃ p values, compile "/u/:id/:x"
        ((Params.empty.insert "id" "a|(?i)b").insert "x" "(c|d)") = .ok p ∧
      p.captures "/u/B/d/" = some [("id", "B"), ("x", "d")] ∧
      p.captures "/u/B/d/" = some (["id", "x"].zip (values.map String.ofList)) ∧
      ("/u/B/d/".toList = fill (Piece.scan "/u/:id/:x".toList) values ∨
        "/u/B/d/".toList = fill (Piece.scan "/u/:id/:x".toList) values ++ ['/']) := by
  let conditions := (Params.empty.insert "id" "a|(?i)b").insert "x" "(c|d)"
  have hnames : captureNames "/u/:id/:x" = ["id", "x"] := by decide +kernel
  have hconditions : ∀ name ∈ captureNames "/u/:id/:x", ∀ condition,
      conditions.get? name = some condition →
        (Regex.compile condition).isOk ∧ '#' ∉ condition.toList := by
    intro name hname condition hget
    rw [hnames] at hname
    rcases List.mem_pair.mp hname with rfl | rfl
    · obtain rfl : "a|(?i)b" = condition := Option.some.inj hget
      exact ⟨by decide +kernel, by decide⟩
    · obtain rfl : "(c|d)" = condition := Option.some.inj hget
      exact ⟨by decide +kernel, by decide⟩
  have hresult : (compile "/u/:id/:x" conditions).toOption.map
      (fun p => (p.isMatch "/u/B/d/", p.captures "/u/B/d/")) =
        some (true, some [("id", "B"), ("x", "d")]) := by
    decide +kernel
  obtain ⟨p, hcompile, hresult⟩ := exists_of_map_compile hresult
  obtain ⟨hmatch, hcaptures⟩ := Prod.mk.inj hresult
  obtain ⟨-, hpaths⟩ := captures_confined hcompile (by decide +kernel) hconditions
  obtain ⟨values, -, hzip, hcovers⟩ := hpaths "/u/B/d/" hmatch
  exact ⟨p, values, hcompile, hcaptures, hnames ▸ hzip, hcovers⟩

end PathRouter.Pattern
