import PathRouter.Proofs.Pattern.Confined
import PathRouter.Proofs.Regex.Parentheses
import PathRouter.Proofs.Router.Overlay

/-!
# Conditions in parentheses

A group that is put around a condition moves the numbers of all groups behind it. Captures find
their groups by name, so it changes nothing else: patterns that differ in such groups match the same
paths and read the same values from them, and so do their routes.

* `inParentheses` puts some of the conditions in parentheses.
* `parenthesize_heldExpr`: the expression of the pattern is then the former one with groups that
  have no name within those of the captures (`Expr.parenthesize`).
* `reads_same_inParentheses` is about whole patterns and routes.
-/

namespace PathRouter.Pattern

open Regex

/-! ## The conditions -/

/-- Puts the conditions for the `chosen` names in parentheses. -/
def inParentheses (chosen : String → Bool) (conditions : Conditions) : Conditions where
  entries := conditions.entries.map fun entry =>
    (entry.1, if chosen entry.1 then "(" ++ entry.2 ++ ")" else entry.2)
  nodup_keys := by
    rw [List.map_map]
    exact conditions.nodup_keys

theorem get?_inParentheses (chosen : String → Bool) (conditions : Conditions) (name : String) :
    (inParentheses chosen conditions).get? name =
      (conditions.get? name).map fun condition =>
        if chosen name then "(" ++ condition ++ ")" else condition :=
  lookup_map_key (fun name condition => if chosen name then "(" ++ condition ++ ")" else condition)
    conditions.entries name

/-- Whether what captures of the given name match is put in parentheses. -/
def isWrapped (chosen : String → Bool) (conditions : Conditions) (name : List Char) : Bool :=
  chosen (String.ofList name) && conditions.contains (String.ofList name)

theorem inner_inParentheses (chosen : String → Bool) (conditions : Conditions)
    (name : List Char) :
    inner (inParentheses chosen conditions) name =
      if isWrapped chosen conditions name then "(" ++ inner conditions name ++ ")"
      else inner conditions name := by
  unfold inner isWrapped Params.contains
  rw [get?_inParentheses]
  cases conditions.get? (String.ofList name) <;> simp

/-! ## The expression -/

section Wrapped

variable (wrapped : List Char → Bool) {held : List Char → Expr} {pieces : List Piece}

/-- What a group holds, in one group more if its capture is `wrapped`. -/
def wrapHeld (held : List Char → Expr) (name : List Char) : Expr :=
  if wrapped name then .group none (held name) else held name

/-- The names of the groups that are wrapped. -/
def wrappedGroups (pieces : List Piece) : List String :=
  ((Piece.names pieces).zipIdx.filter fun entry => wrapped entry.1).map fun entry =>
    groupName entry.2

variable {wrapped}

theorem mem_wrappedGroups {group : String} :
    group ∈ wrappedGroups wrapped pieces ↔
      ∃ j name, (Piece.names pieces)[j]? = some name ∧ wrapped name ∧ group = groupName j := by
  simp only [wrappedGroups, List.mem_map, List.mem_filter, Prod.exists,
    List.mk_mem_zipIdx_iff_getElem?]
  constructor
  · rintro ⟨name, j, ⟨hname, hwrapped⟩, rfl⟩
    exact ⟨j, name, hname, hwrapped, rfl⟩
  · rintro ⟨j, name, hname, hwrapped, rfl⟩
    exact ⟨name, j, ⟨hname, hwrapped⟩, rfl⟩

/-- Where only groups of captures are wrapped, and which ones is a matter of their names. -/
theorem map_parenthesize_heldExprs {groups : List String} {i : Nat}
    (hown : ∀ j name, (Piece.names pieces)[j]? = some name →
      (groupName (i + j) ∈ groups ↔ wrapped name))
    (hfree : ∀ name ∈ Piece.names pieces, ∀ group ∈ groups, some group ∉ (held name).groups) :
    (heldExprs held i pieces).map (Expr.parenthesize groups) =
      heldExprs (wrapHeld wrapped held) i pieces := by
  induction pieces generalizing i with
  | nil => rfl
  | cons piece pieces ih =>
    cases piece with
    | literal text =>
      rw [heldExprs, heldExprs, List.map_append, ih hown hfree, List.map_map]
      rfl
    | capture name =>
      obtain ⟨hname, hfree⟩ := List.forall_mem_cons.mp hfree
      have hrest : (heldExprs held (i + 1) pieces).map (Expr.parenthesize groups) =
          heldExprs (wrapHeld wrapped held) (i + 1) pieces := by
        refine ih (fun j name' hname' => ?_) hfree
        rw [Nat.add_assoc, Nat.add_comm 1 j]
        exact hown (j + 1) name' hname'
      have hhere : groupName i ∈ groups ↔ wrapped name := hown 0 name rfl
      rw [heldExprs, heldExprs, List.map_cons, hrest, Expr.parenthesize_named,
        Expr.parenthesize_eq_self hname, wrapHeld]
      simp only [hhere]

theorem mem_groups_of_held {name : List Char} (hname : name ∈ Piece.names pieces) (i : Nat)
    {group : Option String} (hgroup : group ∈ (held name).groups) :
    group ∈ (heldExprs held i pieces).flatMap Expr.groups := by
  induction pieces generalizing i with
  | nil => cases hname
  | cons piece pieces ih =>
    cases piece with
    | literal text =>
      rw [heldExprs, List.flatMap_append]
      exact List.mem_append_right _ (ih hname i)
    | capture other =>
      rw [heldExprs, List.flatMap_cons]
      rcases List.mem_cons.mp hname with rfl | hname
      · exact List.mem_append_left _ (List.mem_cons_of_mem _ hgroup)
      · exact List.mem_append_right _ (ih hname (i + 1))

/-- No group within a capture has the name of a capture's group. -/
theorem not_mem_groups_held {i : Nat}
    (hnodup : ((heldExprs held i pieces).flatMap Expr.groups).reduceOption.Nodup)
    {name : List Char} (hname : name ∈ Piece.names pieces) {j : Nat}
    (hj : j < (Piece.names pieces).length) : some (groupName (i + j)) ∉ (held name).groups := by
  induction pieces generalizing i j with
  | nil => cases hname
  | cons piece pieces ih =>
    cases piece with
    | literal text =>
      rw [heldExprs, List.flatMap_append, List.reduceOption_append, List.nodup_append] at hnodup
      exact ih hnodup.2.1 hname hj
    | capture other =>
      obtain ⟨hown, hothers, hapart⟩ := names_apart hnodup
      intro hmem
      rcases List.mem_cons.mp hname with rfl | hname
      · cases j with
        | zero => exact hown hmem
        | succ j =>
          refine hapart _ (.inr hmem) ?_
          rw [show i + (j + 1) = i + 1 + j by omega]
          exact mem_groups_heldExprs held (Nat.lt_of_succ_lt_succ hj) (i + 1)
      · cases j with
        | zero => exact hapart _ (.inl rfl) (mem_groups_of_held hname (i + 1) hmem)
        | succ j =>
          rw [show i + (j + 1) = i + 1 + j by omega] at hmem
          exact ih hothers hname (Nat.lt_of_succ_lt_succ hj) hmem

/-- **Wrapping what captures hold is putting groups into theirs.** -/
theorem parenthesize_heldExpr (wrapped : List Char → Bool)
    (hnodup : (heldExpr held pieces).groups.reduceOption.Nodup) :
    (heldExpr held pieces).parenthesize (wrappedGroups wrapped pieces) =
      heldExpr (wrapHeld wrapped held) pieces := by
  rw [groups_heldExpr] at hnodup
  have hown (j : Nat) (name : List Char) (hname : (Piece.names pieces)[j]? = some name) :
      groupName (0 + j) ∈ wrappedGroups wrapped pieces ↔ wrapped name := by
    rw [Nat.zero_add, mem_wrappedGroups]
    constructor
    · rintro ⟨j', name', hname', hwrapped, hgroup⟩
      obtain rfl := groupName_inj.mp hgroup
      rwa [Option.some.inj (hname.symm.trans hname')]
    · exact fun hwrapped => ⟨j, name, hname, hwrapped, rfl⟩
  have hfree : ∀ name ∈ Piece.names pieces, ∀ group ∈ wrappedGroups wrapped pieces,
      some group ∉ (held name).groups := by
    intro name hname group hgroup
    obtain ⟨j, _, hj, -, rfl⟩ := mem_wrappedGroups.mp hgroup
    rw [← Nat.zero_add j]
    exact not_mem_groups_held hnodup hname (List.getElem?_eq_some_iff.mp hj).1
  rw [heldExpr, Expr.parenthesize_cats, List.map_cons, List.map_append,
    map_parenthesize_heldExprs hown hfree]
  rfl

end Wrapped

/-! ## Whole patterns -/

/-- A condition in parentheses spells a group more within its capture. -/
theorem spellsWithin_inParentheses {conditions : Conditions} {names : List (List Char)}
    (h : AreConfined conditions names) (chosen : String → Bool) {name : List Char}
    (hname : name ∈ names) :
    SpellsWithin (inner (inParentheses chosen conditions) name).toList
      (wrapHeld (isWrapped chosen conditions) (fun name => spelled (inner conditions name))
        name) := by
  have hspells := spellsWithin_of_areConfined h hname
  rw [inner_inParentheses, wrapHeld]
  split
  · rw [String.toList_append, String.toList_append]
    exact hspells.parenthesized (Expr.head?_ne_of_parse (parse_of_isOk (h name hname).1))
  · exact hspells

section Parenthesize

variable {p p' : Pattern} {groups : List String}

theorem find?_eq_of_parenthesize (hexpr : p'.regex.expr = p.regex.expr.parenthesize groups)
    (text : List Char) : p'.regex.find? text = p.regex.find? text := by
  unfold Regex.find?
  rw [hexpr, search_parenthesize]

theorem captured_eq_of_parenthesize (hexpr : p'.regex.expr = p.regex.expr.parenthesize groups)
    (path : List Char) (m : Regex.Match) (index : Nat) :
    p'.captured path m index = p.captured path m index := by
  have hhas : p'.regex.hasGroup (groupName index) = p.regex.hasGroup (groupName index) := by
    rw [Bool.eq_iff_iff, Regex.hasGroup, Regex.hasGroup, List.contains_iff_mem,
      List.contains_iff_mem, Regex.groups, Regex.groups, hexpr, Expr.mem_groups_parenthesize]
  unfold captured
  rw [hhas]

/-- Patterns that differ in unnamed groups within named ones read the same. -/
theorem reads_of_parenthesize (hnames : p'.names = p.names)
    (hexpr : p'.regex.expr = p.regex.expr.parenthesize groups) (path : String) :
    p'.isMatch path = p.isMatch path ∧ p'.captures path = p.captures path := by
  constructor
  · unfold isMatch Regex.isMatch
    rw [find?_eq_of_parenthesize hexpr]
  · unfold captures
    rw [find?_eq_of_parenthesize hexpr, hnames]
    simp only [captured_eq_of_parenthesize hexpr]

end Parenthesize

/-- The expression of a pattern with conditions in parentheses. -/
theorem expr_inParentheses {source : String} {conditions : Conditions} {chosen : String → Bool}
    {p p' : Pattern} (hcompile : compile source conditions = .ok p)
    (hcompile' : compile source (inParentheses chosen conditions) = .ok p')
    (hplain : ∀ piece ∈ Piece.scan source.toList, piece.isPlain)
    (hconfined : AreConfined conditions (Piece.names (Piece.scan source.toList))) :
    p'.regex.expr = p.regex.expr.parenthesize
      (wrappedGroups (isWrapped chosen conditions) (Piece.scan source.toList)) := by
  obtain ⟨hexpression, -, hparse⟩ := parse_of_compile hcompile
  obtain ⟨hexpression', -, hparse'⟩ := parse_of_compile hcompile'
  have hnodup := nodup_reduceOption_groups hparse
  rw [hexpression] at hparse
  rw [hexpression'] at hparse'
  have hexpr := expr_eq_heldExpr hparse hplain fun _ => spellsWithin_of_areConfined hconfined
  have hexpr' := expr_eq_heldExpr hparse' hplain fun _ =>
    spellsWithin_inParentheses hconfined chosen
  rw [hexpr] at hnodup
  rw [hexpr, hexpr', parenthesize_heldExpr _ hnodup]

/-- **Parentheses around conditions shift nothing.** Where literal text has no meaning of its own
and each condition that is used is an expression by itself, without `#`, any of the conditions can
be put in parentheses. If there are patterns with and without them, both match the same paths and
read the same from them, and so do their routes. -/
theorem reads_same_inParentheses {source : String} {conditions : Conditions}
    {chosen : String → Bool} {p p' : Pattern} (hcompile : compile source conditions = .ok p)
    (hcompile' : compile source (inParentheses chosen conditions) = .ok p')
    (hplain : ∀ piece ∈ Piece.scan source.toList, piece.isPlain)
    (hconditions : ∀ name ∈ captureNames source, ∀ condition,
      conditions.get? name = some condition →
        (Regex.compile condition).isOk ∧ '#' ∉ condition.toList) :
    (∀ path, p'.isMatch path = p.isMatch path ∧ p'.captures path = p.captures path) ∧
      ∀ handler static, ∃ route route',
        Route.compile source handler static conditions = .ok route ∧
        Route.compile source handler static (inParentheses chosen conditions) = .ok route' ∧
        ∀ path, route'.paramsFor path = route.paramsFor path := by
  have hnames : p'.names = p.names :=
    (parse_of_compile hcompile').2.1.trans (parse_of_compile hcompile).2.1.symm
  have hexpr := expr_inParentheses hcompile hcompile' hplain (areConfined_of_conditions hconditions)
  have hreads := reads_of_parenthesize hnames hexpr
  refine ⟨hreads, fun handler static => ⟨_, _, Route.compile_eq_ok_iff.mpr ⟨p, hcompile, rfl⟩,
    Route.compile_eq_ok_iff.mpr ⟨p', hcompile', rfl⟩, fun path => ?_⟩⟩
  unfold Route.paramsFor
  dsimp only
  rw [(hreads path).2]

/-- The group that is put around the first condition moves the one of the second capture, which is
still found. -/
theorem reads_same_ofMovedGroup :
    ∃ p p', compile "/:id/:x" (Params.empty.insert "id" "a|(?i)b") = .ok p ∧
      compile "/:id/:x" (Params.empty.insert "id" "(a|(?i)b)") = .ok p' ∧
      p.regex.groups = [some "__p0", some "__p1"] ∧
      p'.regex.groups = [some "__p0", none, some "__p1"] ∧
      p.captures "/B/d/" = some [("id", "B"), ("x", "d")] ∧
      p'.captures "/B/d/" = some [("id", "B"), ("x", "d")] := by
  let conditions := Params.empty.insert "id" "a|(?i)b"
  have hchosen : inParentheses (· == "id") conditions = Params.empty.insert "id" "(a|(?i)b)" := by
    decide +kernel
  have hconditions : ∀ name ∈ captureNames "/:id/:x", ∀ condition,
      conditions.get? name = some condition →
        (Regex.compile condition).isOk ∧ '#' ∉ condition.toList := by
    intro name hname condition hget
    rw [show captureNames "/:id/:x" = ["id", "x"] by decide +kernel] at hname
    rcases List.mem_pair.mp hname with rfl | rfl
    · obtain rfl : "a|(?i)b" = condition := Option.some.inj hget
      exact ⟨by decide +kernel, by decide⟩
    · cases hget
  have hresult : (compile "/:id/:x" conditions).toOption.map
      (fun p => (p.regex.groups, p.captures "/B/d/")) =
        some ([some "__p0", some "__p1"], some [("id", "B"), ("x", "d")]) := by
    decide +kernel
  have hresult' : (compile "/:id/:x" (inParentheses (· == "id") conditions)).toOption.map
      (·.regex.groups) = some [some "__p0", none, some "__p1"] := by
    decide +kernel
  obtain ⟨p, hcompile, hresult⟩ := exists_of_map_compile hresult
  obtain ⟨p', hcompile', hgroups'⟩ := exists_of_map_compile hresult'
  obtain ⟨hgroups, hcaptures⟩ := Prod.mk.inj hresult
  obtain ⟨hreads, -⟩ :=
    reads_same_inParentheses hcompile hcompile' (by decide +kernel) hconditions
  exact ⟨p, p', hcompile, hchosen ▸ hcompile', hgroups, hgroups', hcaptures,
    (hreads "/B/d/").2.trans hcaptures⟩

end PathRouter.Pattern
