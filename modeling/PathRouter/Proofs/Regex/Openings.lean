import Mathlib.Data.List.Nodup
import Mathlib.Data.List.ReduceOption
import PathRouter.Proofs.Regex.Groups
import PathRouter.Proofs.Regex.Reading

/-!
# Where the groups of an expression come from

An expression does not tell where in its text a group was opened. This module follows the parser
through the text a second time and keeps for every group the place of its opening parenthesis.

* `lexemesFrom` cuts a text into the tokens that the parser reads; what stands in a class, a comment
  or an escape is within a token and opens nothing.
* `Trail` has the shape of the parser's stack, with openings in the place of expressions. A group
  that is repeated at most zero times leaves the expression, and so its opening leaves the trail.
* `Mirrors` is the invariant: the openings of a trail are the groups of the expressions on the
  stack. `Mirrors.apply` is the step and `Mirrors.steps` the run.
* `groups_eq_openings`: the groups of an expression are its openings, in order.
* `opened` lists all openings, whether they stay or not; `openings_sublist` says that those that
  stay are among them in the same order. So their places ascend (`pairwise_openings`) and their
  names differ (`nodup_names_openings`).
-/

namespace PathRouter.Regex

/-! ## Tokens of a text -/

/-- The tokens that the parser reads from the state `s` on, as far as it gets. -/
def lexemesFrom (s : State) (cs : List Char) : List Lexeme :=
  match cs with
  | [] => []
  | c :: rest =>
    match Token.read s.level.flags c rest with
    | .error _ => []
    | .ok r =>
      match s.apply r.value with
      | .error _ => []
      | .ok s' =>
        have : r.rest.length < rest.length + 1 := Nat.lt_succ_of_le r.suffix.length_le
        ⟨c :: rest, r.value⟩ :: lexemesFrom s' r.rest
termination_by cs.length

/-- The tokens of a text are those of the steps to its end. -/
theorem lexemesFrom_of_steps {s s' : State} {cs : List Char} {lexemes : List Lexeme}
    (h : Steps s cs lexemes s' []) : lexemesFrom s cs = lexemes := by
  generalize hend : ([] : List Char) = rest at h
  induction h with
  | refl s cs =>
    subst hend
    rw [lexemesFrom]
  | cons step _ ih =>
    obtain ⟨c, tail, rfl, hread⟩ := step.read
    obtain ⟨hsuffix, hread⟩ := Reader.run_eq_ok_iff.mp hread
    rw [lexemesFrom]
    simp only [hread, step.apply, ih hend]
    rw [← step.text]

/-! ## Openings -/

/-- The opening parenthesis of a group. -/
structure Opening where
  /-- How many characters stand before it. -/
  offset : Nat
  /-- The name of the group, if it has one. -/
  name : Option String
deriving DecidableEq, Repr

/-- The opening of a group that remembers its match; the others leave nothing. -/
def GroupKind.openings (offset : Nat) : GroupKind → List Opening
  | .capture name => [⟨offset, name⟩]
  | .plain _ => []

/-- What a token opens that stands at `offset`. -/
def Token.openings (offset : Nat) : Token → List Opening
  | .openGroup kind => kind.openings offset
  | _ => []

/-- All that tokens of a text of `total` characters open, whether it stays or not. -/
def opened (total : Nat) (lexemes : List Lexeme) : List Opening :=
  lexemes.flatMap fun l => l.token.openings (total - l.text.length)

/-- The openings within an open group, or in the whole expression. -/
structure Layer where
  /-- Those of the finished alternatives, in order. -/
  branches : List Opening
  /-- Those of each item of the alternative being read, the latest item first. -/
  items : List (List Opening)
deriving DecidableEq, Repr

namespace Layer

/-- All openings, in order. -/
def openings (l : Layer) : List Opening := l.branches ++ l.items.reverse.flatten

/-- Adds an item. -/
def add (l : Layer) (item : List Opening) : Layer := { l with items := item :: l.items }

/-- Ends the alternative being read. -/
def divide (l : Layer) : Layer := ⟨l.openings, []⟩

/-- Repeats the last item; at most zero times leaves nothing of it. -/
def quantify (l : Layer) (q : Quantifier) : Layer :=
  if q.max = some 0 then { l with items := [] :: l.items.tail } else l

end Layer

/-- The openings on the parser's stack. -/
structure Trail where
  level : Layer
  /-- The groups around it, the innermost first: their own opening and what stands before it. -/
  outer : List (List Opening × Layer)
deriving DecidableEq, Repr

namespace Trail

/-- Takes in one token that stands at `offset`. -/
def apply (t : Trail) (offset : Nat) : Token → Trail
  | .openGroup kind => ⟨⟨[], []⟩, (kind.openings offset, t.level) :: t.outer⟩
  | .closeGroup =>
    match t.outer with
    | [] => t
    | (own, l) :: outer => ⟨l.add (own ++ t.level.openings), outer⟩
  | .bar => { t with level := t.level.divide }
  | .setFlags _ => { t with level := t.level.add [] }
  | .quantifier q => { t with level := t.level.quantify q }
  | .atom _ => { t with level := t.level.add [] }
  | .blank => t

/-- Takes in tokens of a text of `total` characters. -/
def follow (total : Nat) (t : Trail) (lexemes : List Lexeme) : Trail :=
  lexemes.foldl (fun t l => t.apply (total - l.text.length) l.token) t

/-- All openings, those of the outer groups first. -/
def openings (t : Trail) : List Opening :=
  (t.outer.reverse.flatMap fun (own, l) => l.openings ++ own) ++ t.level.openings

end Trail

/-- The openings of the groups in the expression that a text spells, in order. -/
def openings (text : List Char) : List Opening :=
  (Trail.follow text.length ⟨⟨[], []⟩, []⟩ (lexemesFrom Expr.startState text)).openings

theorem opened_cons (total : Nat) (l : Lexeme) (lexemes : List Lexeme) :
    opened total (l :: lexemes) =
      l.token.openings (total - l.text.length) ++ opened total lexemes := rfl

/-! ## The invariant -/

/-- The openings of a layer are the groups of the expressions in a level. -/
structure Layer.Mirrors (l : Level) (layer : Layer) : Prop where
  branches : (l.branches.reverse.flatMap fun p => p.expr.groups) = layer.branches.map (·.name)
  items : (l.items.map fun i => i.expr.groups) = layer.items.map (·.map (·.name))

/-- The openings of a trail are the groups of the expressions on the parser's stack. -/
structure Mirrors (s : State) (t : Trail) : Prop where
  level : Layer.Mirrors s.level t.level
  outer : List.Forall₂ (fun (kind, l) (own, layer) =>
    (kind.openings 0).map (·.name) = own.map (·.name) ∧ Layer.Mirrors l layer) s.outer t.outer

namespace Layer.Mirrors

variable {l : Level} {layer : Layer}

theorem start (f : Flags) : Mirrors (.start f) ⟨[], []⟩ := ⟨rfl, rfl⟩

theorem branch (h : Mirrors l layer) :
    l.branch.expr.groups = layer.items.reverse.flatten.map (·.name) := by
  have hitems : (l.items.map fun i => i.expr.groups).reverse.flatten =
      (layer.items.map (·.map (·.name))).reverse.flatten := by rw [h.items]
  rw [← List.map_reverse, ← List.map_reverse, ← List.map_flatten] at hitems
  rw [← hitems]
  simp [Level.branch, Piece.join, Expr.groups_cats, List.flatMap_def, Function.comp_def]

/-- What a level comes to has the groups that the layer opened. -/
theorem contents (h : Mirrors l layer) :
    l.contents.expr.groups = layer.openings.map (·.name) := by
  have hall : l.contents.expr.groups =
      (l.branches.reverse.flatMap fun p => p.expr.groups) ++ l.branch.expr.groups := by
    simp [Level.contents, Piece.join, Expr.groups_alts, List.flatMap_def, Function.comp_def]
  rw [hall, h.branches, h.branch, Layer.openings, List.map_append]

theorem add (h : Mirrors l layer) {p : Piece} {item : List Opening}
    (hitem : p.expr.groups = item.map (·.name)) : Mirrors (l.add p) (layer.add item) where
  branches := h.branches
  items := by
    show p.expr.groups :: _ = _ :: _
    rw [hitem, h.items]

theorem divide (h : Mirrors l layer) : Mirrors l.divide layer.divide where
  branches := by
    have hbranch := h.branch
    simp [Level.divide, Layer.divide, Layer.openings, h.branches, hbranch]
  items := rfl

theorem changeFlags (h : Mirrors l layer) (changes : List (Flag × Bool)) :
    Mirrors (l.changeFlags changes) (layer.add []) where
  branches := h.branches
  items := by
    show [] :: _ = [] :: _
    rw [h.items]

theorem quantify (h : Mirrors l layer) {q : Quantifier} {l' : Level}
    (hquantify : l.quantify q = .ok l') : Mirrors l' (layer.quantify q) := by
  unfold Level.quantify at hquantify
  split at hquantify
  · next p items hitems =>
    cases hquantify
    have hlayer := h.items
    rw [hitems] at hlayer
    obtain ⟨item, more, hmore, hitem, hrest⟩ := List.map_eq_cons_iff.mp hlayer.symm
    have hrepeated := Expr.groups_repeated q.min q.max (q.turned == l.flags.swapGreed) p.expr
    unfold Layer.quantify
    split
    · next hzero =>
      rw [if_pos hzero] at hrepeated
      refine ⟨h.branches, ?_⟩
      show (p.expr.repeated _ _ _).groups :: _ = _
      rw [hrepeated, hmore, List.tail_cons, List.map_cons, hrest]
      rfl
    · next hzero =>
      rw [if_neg hzero] at hrepeated
      refine ⟨h.branches, ?_⟩
      show (p.expr.repeated _ _ _).groups :: _ = _
      rw [hrepeated, hmore, List.map_cons, hrest, hitem]
      rfl
  · cases hquantify

end Layer.Mirrors

/-- A group around a piece comes first. -/
theorem groups_wrap (kind : GroupKind) (p : Piece) :
    (State.wrap kind p).expr.groups = (kind.openings 0).map (·.name) ++ p.expr.groups := by
  cases kind <;> rfl

theorem map_name_openings (offset : Nat) (kind : GroupKind) :
    (kind.openings offset).map (·.name) = (kind.openings 0).map (·.name) := by
  cases kind <;> rfl

namespace Token

/-- No group stands within a single token. -/
def IsFlat (token : Token) : Prop := ∀ p, token = .atom p → p.expr.groups = []

theorem isFlat_of_ne {token : Token} (h : ∀ p, token ≠ .atom p) : token.IsFlat :=
  fun p hp => absurd hp (h p)

theorem isFlat_atom {p : Piece} (h : p.expr.groups = []) : (Token.atom p).IsFlat := by
  rintro p' hp
  cases hp
  exact h

theorem yields_turnable (min : Nat) (max : Option Nat) : (turnable min max).Yields IsFlat :=
  Reader.yields_bind fun _ => Reader.yields_pure (isFlat_of_ne nofun)

theorem yields_openedGroup (f : Flags) : (openedGroup f).Yields IsFlat := by
  unfold openedGroup
  refine Reader.yields_bind fun _ => Reader.yields_bind fun look => ?_
  dsimp only
  split
  · exact Reader.yields_throw_bind _ _ _
  · refine Reader.yields_bind fun named => ?_
    split
    · exact Reader.yields_bind fun _ => Reader.yields_pure (isFlat_of_ne nofun)
    · refine Reader.yields_bind fun question => ?_
      split
      · refine Reader.yields_bind fun changes => ?_
        split
        · exact Reader.yields_bind fun _ => Reader.yields_pure (isFlat_of_ne nofun)
        · exact Reader.yields_pure (isFlat_of_ne nofun)
        · exact Reader.yields_pure (isFlat_of_ne nofun)
      · exact Reader.yields_pure (isFlat_of_ne nofun)

theorem yields_countedQuantifier (f : Flags) : (countedQuantifier f).Yields IsFlat := by
  unfold countedQuantifier
  refine Reader.yields_bind fun _ => Reader.yields_bind fun min =>
    Reader.yields_bind fun max => Reader.yields_bind fun _ => ?_
  dsimp only
  split
  · exact Reader.yields_bind fun _ => yields_turnable min max
  · exact yields_turnable min max

/-- Whatever the reader finds, it opens groups by tokens of their own only. -/
theorem yields_read (f : Flags) (c : Char) : (read f c).Yields IsFlat := by
  unfold read
  split
  · split
    · exact Reader.yields_bind fun _ => Reader.yields_pure (isFlat_of_ne nofun)
    · exact Reader.yields_pure (isFlat_of_ne nofun)
  · split
    · exact yields_openedGroup f
    · exact Reader.yields_pure (isFlat_of_ne nofun)
    · exact Reader.yields_pure (isFlat_of_ne nofun)
    · exact yields_turnable _ _
    · exact yields_turnable _ _
    · exact yields_turnable _ _
    · exact yields_countedQuantifier f
    · exact Reader.yields_bind fun _ => Reader.yields_pure (isFlat_atom rfl)
    · split
      · exact Reader.yields_pure (isFlat_atom rfl)
      · exact Reader.yields_throw _ _
    · exact Reader.yields_pure (isFlat_atom rfl)
    · exact Reader.yields_pure (isFlat_atom rfl)
    · refine Reader.yields_bind fun escape => Reader.yields_pure ?_
      cases escape <;> exact isFlat_atom rfl
    · exact Reader.yields_pure (isFlat_atom rfl)

end Token

/-- A quantifier changes the level that the parser is in, if there is something to repeat. -/
theorem State.apply_quantifier {s s' : State} {q : Quantifier}
    (h : s.apply (.quantifier q) = .ok s') :
    ∃ level, s.level.quantify q = .ok level ∧ s' = { s with level } := by
  unfold State.apply at h
  cases hquantify : s.level.quantify q with
  | error e =>
    simp only [hquantify] at h
    cases h
  | ok level =>
    simp only [hquantify] at h
    cases h
    exact ⟨level, rfl, rfl⟩

namespace Mirrors

variable {s s' : State} {t : Trail}

theorem start : Mirrors Expr.startState ⟨⟨[], []⟩, []⟩ := ⟨Layer.Mirrors.start {}, .nil⟩

/-- **The step.** The trail follows the parser over a token. -/
theorem apply (h : Mirrors s t) {token : Token} (hatom : token.IsFlat)
    (happly : s.apply token = .ok s') (offset : Nat) : Mirrors s' (t.apply offset token) := by
  obtain ⟨level, outer, names⟩ := s
  obtain ⟨layer, above⟩ := t
  obtain ⟨hlevel, houter⟩ := h
  -- level and layer change alike: in front, on top of the stack, or by a level that is closed
  cases token with
  | openGroup kind =>
    cases happly
    exact ⟨.start _, .cons ⟨(map_name_openings offset kind).symm, hlevel⟩ houter⟩
  | closeGroup =>
    cases houter with
    | nil => cases happly
    | cons hinner houter =>
      cases happly
      -- the group's own opening stands in front of those within it
      refine ⟨hinner.2.add ?_, houter⟩
      rw [groups_wrap, hinner.1, hlevel.contents, List.map_append]
  | bar =>
    cases happly
    exact ⟨hlevel.divide, houter⟩
  | setFlags changes =>
    cases happly
    exact ⟨hlevel.changeFlags changes, houter⟩
  | quantifier q =>
    obtain ⟨level', hquantify, rfl⟩ := State.apply_quantifier happly
    exact ⟨hlevel.quantify hquantify, houter⟩
  | atom p =>
    cases happly
    exact ⟨hlevel.add (hatom p rfl), houter⟩
  | blank =>
    cases happly
    exact ⟨hlevel, houter⟩

/-- **The run.** It follows the parser over a sequence of tokens. -/
theorem steps (h : Mirrors s t) {cs rest : List Char} {lexemes : List Lexeme}
    (hsteps : Steps s cs lexemes s' rest) (total : Nat) : Mirrors s' (t.follow total lexemes) := by
  induction hsteps generalizing t with
  | refl => exact h
  | cons step _ ih =>
    obtain ⟨c, tail, -, hread⟩ := step.read
    exact ih (h.apply (Token.yields_read _ _ _ _ _ hread) step.apply _)

end Mirrors

/-- What the parser gives at the end of the text. -/
theorem State.finish_eq_ok {s : State} {e : Expr} (h : s.finish = .ok e) :
    s.outer = [] ∧ s.names.Nodup ∧ e = s.level.contents.expr := by
  unfold State.finish at h
  cases houter : s.outer with
  | cons _ _ =>
    rw [houter] at h
    cases h
  | nil =>
    simp only [houter] at h
    split at h
    · cases h
    · split at h
      · next hnames => exact ⟨rfl, hnames, (Except.ok.inj h).symm⟩
      · cases h

/-- **The groups of an expression are the openings of its text, in order.** -/
theorem groups_eq_openings {text : List Char} {e : Expr} (h : Expr.parse text = .ok e) :
    e.groups = (openings text).map (·.name) := by
  obtain ⟨lexemes, s, hsteps, hfinish⟩ := Expr.parse_eq_ok_iff.mp h
  obtain ⟨houter, -, rfl⟩ := State.finish_eq_ok hfinish
  have hmirrors := Mirrors.start.steps hsteps text.length
  -- at the end no group is open, so the level holds all that was read
  have hempty := hmirrors.outer
  rw [houter, List.forall₂_nil_left_iff] at hempty
  rw [openings, lexemesFrom_of_steps hsteps, Trail.openings, hempty, hmirrors.level.contents]
  rfl

/-! ## Openings by their place -/

/-- A token opens what it opens, and a repetition may take openings away. -/
theorem Trail.openings_apply (t : Trail) (offset : Nat) (token : Token) :
    (t.apply offset token).openings.Sublist (t.openings ++ token.openings offset) := by
  have hkeep {a b : List Opening} (h : a = b) : a.Sublist b := h ▸ .refl a
  obtain ⟨level, outer⟩ := t
  cases token with
  | openGroup kind =>
    exact hkeep (by simp [apply, openings, Layer.openings, Token.openings])
  | closeGroup =>
    cases outer with
    | nil => exact List.sublist_append_left _ _
    | cons above outer =>
      exact hkeep (by simp [apply, openings, Layer.openings, Layer.add, Token.openings])
  | quantifier q =>
    unfold apply Layer.quantify
    dsimp only
    split
    · -- no repetition: the openings of the last item go
      refine List.Sublist.trans ?_ (List.sublist_append_left _ _)
      refine List.Sublist.append_left (List.Sublist.append_left ?_ _) _
      cases level.items with
      | nil => exact .refl _
      | cons item items => simp
    · exact List.sublist_append_left _ _
  | bar =>
    exact hkeep (by simp [apply, openings, Layer.openings, Layer.divide, Token.openings])
  | setFlags changes =>
    exact hkeep (by simp [apply, openings, Layer.openings, Layer.add, Token.openings])
  | atom p =>
    exact hkeep (by simp [apply, openings, Layer.openings, Layer.add, Token.openings])
  | blank => exact List.sublist_append_left _ _

theorem Trail.openings_follow (total : Nat) (t : Trail) (lexemes : List Lexeme) :
    (t.follow total lexemes).openings.Sublist (t.openings ++ opened total lexemes) := by
  induction lexemes generalizing t with
  | nil => exact List.sublist_append_left _ _
  | cons l lexemes ih =>
    refine (ih (t.apply (total - l.text.length) l.token)).trans ?_
    rw [opened_cons, ← List.append_assoc]
    exact (t.openings_apply _ _).append_right _

/-- The openings that stay are among all openings, in the same order. -/
theorem openings_sublist (text : List Char) :
    (openings text).Sublist (opened text.length (lexemesFrom Expr.startState text)) :=
  Trail.openings_follow text.length ⟨⟨[], []⟩, []⟩ _

theorem Token.pairwise_openings (offset : Nat) (token : Token) :
    (token.openings offset).Pairwise fun a b => a.offset < b.offset := by
  cases token with
  | openGroup kind =>
    cases kind with
    | capture name => exact List.pairwise_singleton _ _
    | plain changes => exact .nil
  | _ => exact .nil

theorem Token.offset_of_mem_openings {offset : Nat} {token : Token} {opening : Opening}
    (h : opening ∈ token.openings offset) : opening.offset = offset := by
  cases token with
  | openGroup kind =>
    cases kind with
    | capture name => rw [List.mem_singleton.mp h]
    | plain changes => cases h
  | _ => cases h

/-- A token brings in the names of what it opens. -/
theorem State.names_apply {s s' : State} {token : Token} (h : s.apply token = .ok s')
    (offset : Nat) :
    s'.names.reverse = s.names.reverse ++ (token.openings offset).filterMap (·.name) := by
  obtain ⟨level, outer, names⟩ := s
  have hsame : names.reverse = names.reverse ++ [] := (List.append_nil _).symm
  cases token with
  | openGroup kind =>
    cases h
    cases kind with
    | capture name => cases name <;> simp [newNames, Token.openings, GroupKind.openings]
    | plain changes => exact hsame
  | closeGroup =>
    cases outer with
    | nil => cases h
    | cons above outer =>
      cases h
      exact hsame
  | quantifier q =>
    obtain ⟨level', -, rfl⟩ := apply_quantifier h
    exact hsame
  | bar | setFlags _ | atom _ | blank =>
    cases h
    exact hsame

/-- An opening is a token that opens a group, at its place. -/
theorem mem_opened {total : Nat} {lexemes : List Lexeme} {opening : Opening} :
    opening ∈ opened total lexemes ↔
      ∃ l ∈ lexemes, l.token = .openGroup (.capture opening.name) ∧
        opening.offset = total - l.text.length := by
  rw [opened, List.mem_flatMap]
  refine exists_congr fun l => and_congr_right fun _ => ?_
  obtain ⟨offset, name⟩ := opening
  cases l.token with
  | openGroup kind =>
    cases kind with
    | capture name' => simp [Token.openings, GroupKind.openings, eq_comm, and_comm]
    | plain changes => simp [Token.openings, GroupKind.openings]
  | _ => simp [Token.openings]

namespace Steps

variable {s s' : State} {cs rest : List Char} {lexemes : List Lexeme}

/-- A token begins somewhere in the text that is read, and what is read there is the token. -/
theorem suffix_of_mem (h : Steps s cs lexemes s' rest) {l : Lexeme} (hl : l ∈ lexemes) :
    l.text <:+ cs ∧ ∃ f c tail left, l.text = c :: tail ∧
      (Token.read f c).run tail = .ok (l.token, left) := by
  induction h with
  | refl => cases hl
  | cons step _ ih =>
    obtain ⟨c, tail, rfl, hread⟩ := step.read
    rcases List.mem_cons.mp hl with rfl | hl
    · exact ⟨step.text ▸ List.suffix_rfl, _, c, tail, _, step.text, hread⟩
    · obtain ⟨hsuffix, hread'⟩ := ih hl
      exact ⟨hsuffix.trans ((Reader.suffix_of_run hread).trans (List.suffix_cons c tail)), hread'⟩

/-- Later openings stand further on. -/
theorem pairwise_opened (h : Steps s cs lexemes s' rest) {total : Nat}
    (htotal : cs.length ≤ total) :
    (opened total lexemes).Pairwise fun a b => a.offset < b.offset := by
  induction h with
  | refl => exact .nil
  | cons step steps ih =>
    have hlt := step.length_lt
    rw [opened_cons, List.pairwise_append]
    refine ⟨Token.pairwise_openings _ _, ih (by omega), ?_⟩
    -- a later token stands in what the first one left, which is shorter
    intro a ha b hb
    obtain ⟨l, hl, -, hoffset⟩ := mem_opened.mp hb
    have hle := (steps.suffix_of_mem hl).1.length_le
    have hcs := congrArg List.length step.text
    rw [Token.offset_of_mem_openings ha]
    omega

/-- The parser knows the names of the groups that were opened. -/
theorem names (h : Steps s cs lexemes s' rest) (total : Nat) :
    s'.names.reverse = s.names.reverse ++ (opened total lexemes).filterMap (·.name) := by
  induction h with
  | refl => exact (List.append_nil _).symm
  | cons step _ ih =>
    rw [ih, opened_cons, List.filterMap_append, ← List.append_assoc]
    congr 1
    exact State.names_apply step.apply _

end Steps

/-! ## The openings of an expression -/

section

variable {text : List Char} {e : Expr}

/-- The openings stand in the order in which they are numbered. -/
theorem pairwise_openings (h : Expr.parse text = .ok e) :
    (openings text).Pairwise fun a b => a.offset < b.offset := by
  obtain ⟨lexemes, s, hsteps, -⟩ := Expr.parse_eq_ok_iff.mp h
  refine List.Pairwise.sublist (openings_sublist text) ?_
  rw [lexemesFrom_of_steps hsteps]
  exact hsteps.pairwise_opened (Nat.le_refl _)

/-- No two groups have the same name. -/
theorem nodup_names_openings (h : Expr.parse text = .ok e) :
    ((openings text).filterMap (·.name)).Nodup := by
  obtain ⟨lexemes, s, hsteps, hfinish⟩ := Expr.parse_eq_ok_iff.mp h
  refine List.Nodup.sublist ((openings_sublist text).filterMap _) ?_
  have hnames := hsteps.names text.length
  rw [show Expr.startState.names.reverse = [] from rfl, List.nil_append] at hnames
  rw [lexemesFrom_of_steps hsteps, ← hnames, List.nodup_reverse]
  exact (State.finish_eq_ok hfinish).2.1

theorem nodup_reduceOption_groups (h : Expr.parse text = .ok e) : e.groups.reduceOption.Nodup := by
  rw [groups_eq_openings h, List.reduceOption, List.filterMap_map]
  exact nodup_names_openings h

/-- Where an opening stands, a group with its name can be read. -/
theorem read_of_mem_openings (h : Expr.parse text = .ok e) {opening : Opening}
    (hmem : opening ∈ openings text) :
    ∃ f c tail left, text.drop opening.offset = c :: tail ∧
      (Token.read f c).run tail = .ok (.openGroup (.capture opening.name), left) := by
  obtain ⟨lexemes, s, hsteps, -⟩ := Expr.parse_eq_ok_iff.mp h
  have hopened := (openings_sublist text).subset hmem
  rw [lexemesFrom_of_steps hsteps] at hopened
  obtain ⟨l, hl, htoken, hoffset⟩ := mem_opened.mp hopened
  obtain ⟨hsuffix, f, c, tail, left, htext, hread⟩ := hsteps.suffix_of_mem hl
  refine ⟨f, c, tail, left, ?_, htoken ▸ hread⟩
  rw [hoffset, ← List.suffix_iff_eq_drop.mp hsuffix, htext]

end

end PathRouter.Regex
