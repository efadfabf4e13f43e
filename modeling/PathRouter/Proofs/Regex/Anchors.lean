import PathRouter.Proofs.Regex.Found
import PathRouter.Proofs.Regex.Openings

/-!
# Anchors

An anchor that stands in an expression holds only the matches whose way leads over it. Whether every
way does can be read off the expression (`Expr.startsAnchored`, `Expr.stopsAnchored`), and then
every match begins at the start of the text, or ends at its end.

What a text spells depends on more than the anchors that stand first and last in it:

* a `|` outside of all groups makes them anchors of one alternative each (`outermost`);
* a quantifier behind the first one may let it go (`holdsFast`);
* the last one may be swallowed by a comment, or mean the end of a line.

`startsAnchored_of_parse` and `stopsAnchored_of_parse` say that nothing else can happen. Their
invariants are about the level outside of all groups (`State.base`): its finished alternatives are
none, and its first item is an anchor still. Each has a lemma for a step and one for a run.
-/

namespace PathRouter.Regex

namespace Expr

/-- Whether each way through the expression leads over an anchor at the start of the text before it
takes up anything. -/
def startsAnchored : Expr → Bool
  | empty | chars _ => false
  | look l => l = .textStart
  | cat a b => a.startsAnchored || (a.isZeroWidth && b.startsAnchored)
  | alt a b => a.startsAnchored && b.startsAnchored
  | rep min _ _ e => min ≠ 0 && e.startsAnchored
  | group _ e => e.startsAnchored

/-- Whether each way through the expression leads over an anchor at the end of the text behind which
it takes up nothing. -/
def stopsAnchored : Expr → Bool
  | empty | chars _ => false
  | look l => l = .textEnd
  | cat a b => b.stopsAnchored || (b.isZeroWidth && a.stopsAnchored)
  | alt a b => a.stopsAnchored && b.stopsAnchored
  | rep min _ _ e => min ≠ 0 && e.stopsAnchored
  | group _ e => e.stopsAnchored

theorem startsAnchored_cats {e : Expr} (he : e.startsAnchored) (es : List Expr) :
    (cats (e :: es)).startsAnchored := by
  cases es with
  | nil => exact he
  | cons e' es => simp [cats, startsAnchored, he]

theorem stopsAnchored_cats {e : Expr} (he : e.stopsAnchored) (es : List Expr) :
    (cats (es ++ [e])).stopsAnchored := by
  induction es with
  | nil => exact he
  | cons e' es ih =>
    have hcats : cats (e' :: es ++ [e]) = .cat e' (cats (es ++ [e])) := by
      cases es <;> rfl
    rw [hcats, stopsAnchored, ih, Bool.true_or]

end Expr

/-! ## Matches of anchored expressions -/

namespace Expr.Leads

variable {e : Expr} {p : Place} {w : Way}

theorem before_eq_none (h : e.Leads p w) (he : e.startsAnchored) : p.before = none := by
  induction h with
  | empty | chars | repStop => simp [startsAnchored] at he
  | @look l p holds =>
    obtain rfl : l = .textStart := by simpa [startsAnchored] using he
    simpa [Look.holds, Place.around] using holds
  | cat first _ ihv ihu =>
    rcases Bool.or_eq_true_iff.mp he with he | he
    · exact ihv he
    · -- nothing has been taken up before the second part
      obtain ⟨hzero, he⟩ := Bool.and_eq_true_iff.mp he
      rw [← first.stop_eq hzero]
      exact ihu he
  | altLeft _ ih => exact ih (Bool.and_eq_true_iff.mp he).1
  | altRight _ ih => exact ih (Bool.and_eq_true_iff.mp he).2
  | repMin _ _ ihv _ => exact ihv (Bool.and_eq_true_iff.mp he).2
  | repUpTo | repAny => simp [startsAnchored] at he
  | groupPlain _ ih | groupNamed _ ih => exact ih he

/-- At the end of the text every way stays there. -/
theorem stop_eq_of_rest (h : e.Leads p w) (hp : p.rest = []) : w.stop = p := by
  obtain ⟨n, hn, hstop⟩ := h.exists_skip
  rw [hp, List.length_nil, Nat.le_zero] at hn
  rw [hstop, hn, Place.skip_zero]

theorem rest_eq_nil (h : e.Leads p w) (he : e.stopsAnchored) : w.stop.rest = [] := by
  induction h with
  | empty | chars | repStop => simp [stopsAnchored] at he
  | @look l p holds =>
    obtain rfl : l = .textEnd := by simpa [stopsAnchored] using he
    simpa [Look.holds, Place.around] using holds
  | cat _ second ihv ihu =>
    rcases Bool.or_eq_true_iff.mp he with he | he
    · exact ihu he
    · obtain ⟨hzero, he⟩ := Bool.and_eq_true_iff.mp he
      rw [Way.behind_stop, second.stop_eq hzero]
      exact ihv he
  | altLeft _ ih => exact ih (Bool.and_eq_true_iff.mp he).1
  | altRight _ ih => exact ih (Bool.and_eq_true_iff.mp he).2
  | repMin _ more ihv _ =>
    -- the first round ends at the end of the text, and so do all the others
    have hround := ihv (Bool.and_eq_true_iff.mp he).2
    rw [Way.behind_stop, more.stop_eq_of_rest hround, hround]
  | repUpTo | repAny => simp [stopsAnchored] at he
  | groupPlain _ ih | groupNamed _ ih => exact ih he

end Expr.Leads

namespace Place

/-- A place in a text has the rest of the text before it, and only the first has nothing behind. -/
theorem of_mem_onward {text : List Char} {p : Place} (hp : p ∈ onward none 0 text) :
    (p.before = none → p.pos = 0) ∧ p.pos ≤ text.length ∧ p.rest = text.drop p.pos := by
  have hmore (before : Option Char) (pos : Nat) (rest : List Char) (hpos : pos ≤ text.length)
      (hrest : rest = text.drop pos) (hp : p ∈ onward before pos rest) :
      (p.before = none → before = none ∧ p.pos = pos) ∧ p.pos ≤ text.length ∧
        p.rest = text.drop p.pos := by
    induction rest generalizing before pos with
    | nil =>
      obtain rfl := List.mem_singleton.mp hp
      exact ⟨fun h => ⟨h, rfl⟩, hpos, hrest⟩
    | cons c rest ih =>
      rcases List.mem_cons.mp hp with rfl | hp
      · exact ⟨fun h => ⟨h, rfl⟩, hpos, hrest⟩
      · have hlength := congrArg List.length hrest
        rw [List.length_cons, List.length_drop] at hlength
        have hdrop : rest = text.drop (pos + 1) := by
          rw [← List.tail_drop, ← hrest, List.tail_cons]
        obtain ⟨hbefore, hplace⟩ := ih (some c) (pos + 1) (by omega) hdrop hp
        exact ⟨fun h => absurd (hbefore h).1 (Option.some_ne_none c), hplace⟩
  obtain ⟨hbefore, hplace⟩ := hmore none 0 text (Nat.zero_le _) rfl hp
  exact ⟨fun h => (hbefore h).2, hplace⟩

end Place

/-- **Matches of anchored expressions.** -/
theorem anchored_of_search {e : Expr} {text : List Char} {m : Match} (h : e.search text = some m) :
    (e.startsAnchored → m.start = 0) ∧ (e.stopsAnchored → m.stop = text.length) := by
  obtain ⟨p, hp, w, hleads, rfl⟩ := leads_of_search h
  obtain ⟨hbefore, hpos, hplace⟩ := Place.of_mem_onward hp
  refine ⟨fun he => hbefore (hleads.before_eq_none he), fun he => ?_⟩
  obtain ⟨n, hn, hstop⟩ := hleads.exists_skip
  have hrest := congrArg List.length (hleads.rest_eq_nil he)
  have hlength := congrArg List.length hplace
  rw [hstop, Place.rest_skip, List.length_drop, List.length_nil] at hrest
  rw [List.length_drop] at hlength
  show w.stop.pos = text.length
  rw [hstop, Place.pos_skip hn]
  omega

/-! ## The level outside of all groups -/

/-- The tokens of a text. -/
def tokens (text : List Char) : List Token := (lexemesFrom Expr.startState text).map (·.token)

/-- The tokens that stand outside of all groups, where `depth` groups are open at the beginning. -/
def outermost (depth : Nat) : List Token → List Token
  | [] => []
  | .openGroup _ :: rest => outermost (depth + 1) rest
  | .closeGroup :: rest => outermost (depth - 1) rest
  | token :: rest => if depth = 0 then token :: outermost depth rest else outermost depth rest

/-- Whether an anchor in front of the tokens stays one: a quantifier behind it asks for one round at
least. -/
def holdsFast : List Token → Bool
  | .blank :: rest => holdsFast rest
  | .quantifier q :: rest => q.min ≠ 0 && q.max ≠ some 0 && holdsFast rest
  | _ => true

namespace State

/-- The level outside of all groups. -/
def base (s : State) : Level :=
  match s.outer.getLast? with
  | none => s.level
  | some (_, l) => l

/-- It is that of the group around, if the parser is in one. -/
theorem base_cons (level : Level) (inner : GroupKind × Level) (outer : List (GroupKind × Level))
    (names : List String) :
    base ⟨level, inner :: outer, names⟩ = base ⟨inner.2, outer, names⟩ := by
  cases outer <;> simp [base, List.getLast?_cons]

theorem base_of_outer_eq_nil {s : State} (h : s.outer = []) : s.base = s.level := by
  rw [base, h]
  rfl

end State

/-- What a token can do to the level outside of all groups. -/
inductive BaseStep (s : State) (token : Token) (s' : State) : Prop where
  /-- Nothing, as the parser is in a group behind it. -/
  | inner (houter : s'.outer ≠ []) (h : s'.base = s.base)
  | blank (htoken : token = .blank) (h : s' = s)
  /-- An item more. -/
  | add (item : Item) (hbranches : s'.base.branches = s.base.branches)
      (hitems : s'.base.items = item :: s.base.items)
  | bar (houter : s.outer = []) (htoken : token = .bar)
  | quantifier (houter : s.outer = []) (q : Quantifier) (htoken : token = .quantifier q)
      (h : s.base.quantify q = .ok s'.base)

/-- **The step.** -/
theorem baseStep_of_apply {s s' : State} {token : Token} (h : s.apply token = .ok s') :
    BaseStep s token s' := by
  obtain ⟨level, outer, names⟩ := s
  cases token with
  | openGroup kind =>
    cases h
    exact .inner (List.cons_ne_nil _ _) (State.base_cons _ _ _ _)
  | closeGroup =>
    cases outer with
    | nil => cases h
    | cons own outer =>
      cases h
      -- the group becomes an item of the level around it, whichever that is
      cases outer with
      | nil => exact .add _ rfl rfl
      | cons above outer =>
        refine .inner (List.cons_ne_nil _ _) ?_
        rw [State.base_cons, State.base_cons, State.base_cons]
  | blank =>
    cases h
    exact .blank rfl rfl
  | quantifier q =>
    obtain ⟨level', hquantify, rfl⟩ := State.apply_quantifier h
    cases outer with
    | nil => exact .quantifier rfl q rfl hquantify
    | cons above outer =>
      exact .inner (List.cons_ne_nil _ _) (by rw [State.base_cons, State.base_cons])
  | bar =>
    cases h
    cases outer with
    | nil => exact .bar rfl rfl
    | cons above outer =>
      exact .inner (List.cons_ne_nil _ _) (by rw [State.base_cons, State.base_cons])
  | setFlags changes =>
    cases h
    cases outer with
    | nil => exact .add .flags rfl rfl
    | cons above outer =>
      exact .inner (List.cons_ne_nil _ _) (by rw [State.base_cons, State.base_cons])
  | atom p =>
    cases h
    cases outer with
    | nil => exact .add (.piece p) rfl rfl
    | cons above outer =>
      exact .inner (List.cons_ne_nil _ _) (by rw [State.base_cons, State.base_cons])

/-- Tokens that stand outside of all groups behind a token do so behind it, too. -/
theorem outermost_of_apply {s s' : State} {token : Token} (h : s.apply token = .ok s')
    {rest : List Token} {t : Token} (ht : t ∈ outermost s'.outer.length rest) :
    t ∈ outermost s.outer.length (token :: rest) := by
  obtain ⟨level, outer, names⟩ := s
  have hsame (token : Token) (ht : t ∈ outermost outer.length rest) :
      t ∈ if outer.length = 0 then token :: outermost outer.length rest
        else outermost outer.length rest := by
    split
    · exact List.mem_cons_of_mem _ ht
    · exact ht
  cases token with
  | openGroup kind =>
    cases h
    exact ht
  | closeGroup =>
    cases outer with
    | nil => cases h
    | cons own outer =>
      cases h
      exact ht
  | quantifier q =>
    obtain ⟨level', -, rfl⟩ := State.apply_quantifier h
    exact hsame _ ht
  | bar | setFlags _ | atom _ | blank =>
    cases h
    exact hsame _ ht

theorem Level.branches_quantify {l l' : Level} {q : Quantifier} (h : l.quantify q = .ok l') :
    l'.branches = l.branches := by
  unfold quantify at h
  split at h
  · cases h
    rfl
  · cases h

namespace Steps

variable {s s' : State} {cs rest : List Char} {lexemes : List Lexeme}

/-- **The run, for the alternatives**: without a `|` outside of all groups none is finished. -/
theorem branches_base (h : Steps s cs lexemes s' rest)
    (hbar : .bar ∉ outermost s.outer.length (lexemes.map (·.token)))
    (hs : s.base.branches = []) : s'.base.branches = [] := by
  induction h with
  | refl => exact hs
  | cons step _ ih =>
    refine ih (fun hmem => hbar (outermost_of_apply step.apply hmem)) ?_
    cases baseStep_of_apply step.apply with
    | inner _ h => rw [h, hs]
    | blank _ h => rw [h, hs]
    | add _ hbranches _ => rw [hbranches, hs]
    | bar houter htoken =>
      refine absurd ?_ hbar
      rw [List.map_cons, htoken, houter]
      exact List.mem_cons_self
    | quantifier _ q _ hquantify => rw [Level.branches_quantify hquantify, hs]

end Steps

/-! ## The first item -/

/-- The level begins with an anchor at the start of the text. -/
def Level.Fronted (l : Level) : Prop :=
  ∃ items p, l.items = items ++ [.piece p] ∧ p.expr = .look .textStart

/-- A quantifier that asks for one round at least does not count where nothing is taken up. -/
theorem Expr.repeated_look {min : Nat} {max : Option Nat} (hmin : min ≠ 0) (hmax : max ≠ some 0)
    (greedy : Bool) (l : Look) : repeated min max greedy (.look l) = .look l := by
  have hone : Nat.min min 1 = 1 := Nat.min_eq_right (Nat.one_le_iff_ne_zero.mpr hmin)
  have hone' : Nat.min (max.getD 1) 1 = 1 := by
    refine Nat.min_eq_right (Nat.one_le_iff_ne_zero.mpr fun hzero => ?_)
    cases max with
    | none => cases hzero
    | some n => exact hmax (congrArg some hzero)
  simp [repeated, isZeroWidth, hone, hone']

/-- No other item than the first has been read, and no group is open. -/
def State.IsAlone (s : State) : Prop := s.outer = [] ∧ s.base.items.length = 1

/-- A quantifier keeps the anchor in front if there are other items or if it asks for a round. -/
theorem Level.Fronted.quantify {l l' : Level} {q : Quantifier} (h : l.Fronted)
    (hquantify : l.quantify q = .ok l')
    (hq : l.items.length = 1 → q.min ≠ 0 ∧ q.max ≠ some 0) :
    l'.Fronted ∧ l'.items.length = l.items.length := by
  obtain ⟨items, p, hitems, hp⟩ := h
  unfold Level.quantify at hquantify
  cases items with
  | nil =>
    rw [hitems] at hquantify hq
    cases hquantify
    obtain ⟨hmin, hmax⟩ := hq rfl
    refine ⟨⟨[], _, rfl, ?_⟩, by rw [hitems]; rfl⟩
    rw [hp]
    exact Expr.repeated_look hmin hmax _ _
  | cons item items =>
    rw [hitems] at hquantify
    cases item with
    | piece p' =>
      cases hquantify
      exact ⟨⟨_ :: items, p, rfl, hp⟩, by rw [hitems]; rfl⟩
    | flags => cases hquantify

/-- **The step, for the first item.** If it is an anchor, it is one still; and if it is alone still,
then the token was a blank or a quantifier. -/
theorem fronted_of_apply {s s' : State} {token : Token} (h : s.apply token = .ok s')
    (hs : s.base.Fronted) (hbar : s.outer = [] → token ≠ .bar) {rest : List Token}
    (hfast : s.IsAlone → holdsFast (token :: rest)) :
    s'.base.Fronted ∧ (s'.IsAlone → holdsFast rest) := by
  cases baseStep_of_apply h with
  | inner houter h => exact ⟨h ▸ hs, fun halone => absurd halone.1 houter⟩
  | blank htoken h =>
    subst h htoken
    exact ⟨hs, hfast⟩
  | add item _ hitems =>
    obtain ⟨items, p, hfront, hp⟩ := hs
    rw [hfront] at hitems
    refine ⟨⟨item :: items, p, hitems, hp⟩, fun halone => ?_⟩
    have hlength := halone.2
    rw [hitems] at hlength
    simp at hlength
  | bar houter htoken => exact absurd htoken (hbar houter)
  | quantifier houter q htoken hquantify =>
    subst htoken
    have hq (hone : s.base.items.length = 1) :
        (q.min ≠ 0 ∧ q.max ≠ some 0) ∧ holdsFast rest := by
      simpa [holdsFast] using hfast ⟨houter, hone⟩
    obtain ⟨hfront, hlength⟩ := hs.quantify hquantify fun hone => (hq hone).1
    exact ⟨hfront, fun halone => (hq (hlength ▸ halone.2)).2⟩

/-- **The run, for the first item.** -/
theorem Steps.fronted_base {s s' : State} {cs rest : List Char} {lexemes : List Lexeme}
    (h : Steps s cs lexemes s' rest)
    (hbar : .bar ∉ outermost s.outer.length (lexemes.map (·.token))) (hs : s.base.Fronted)
    (hfast : s.IsAlone → holdsFast (lexemes.map (·.token))) : s'.base.Fronted := by
  induction h with
  | refl => exact hs
  | @cons s s' s'' cs cs' cs'' lexeme lexemes step _ ih =>
    have hnot : s.outer = [] → lexeme.token ≠ .bar := by
      rintro houter htoken
      refine hbar ?_
      rw [List.map_cons, htoken, houter]
      exact List.mem_cons_self
    obtain ⟨hfront, hfast⟩ := fronted_of_apply step.apply hs hnot hfast
    exact ih (fun hmem => hbar (outermost_of_apply step.apply hmem)) hfront hfast

/-! ## Whole texts -/

/-- The last of some steps. -/
theorem Steps.exists_last {s s' : State} {cs rest : List Char} {lexemes : List Lexeme}
    (h : Steps s cs lexemes s' rest) {l : Lexeme} (hlast : lexemes.getLast? = some l) :
    ∃ s₁ cs₁, Step s₁ cs₁ l s' rest := by
  induction h with
  | refl => cases hlast
  | @cons s s' s'' cs cs' cs'' lexeme lexemes step steps ih =>
    cases steps with
    | refl =>
      cases hlast
      exact ⟨_, _, step⟩
    | cons step' steps' => exact ih (by rwa [List.getLast?_cons_cons] at hlast)

/-- What has been read at the end of a text without alternatives is one sequence. -/
theorem Level.expr_contents {l : Level} (h : l.branches = []) :
    l.contents.expr = .cats (l.items.reverse.map (·.expr)) := by
  rw [contents, h]
  simp [Piece.join, Expr.alts, branch, Function.comp_def]

section

variable {text : List Char} {e : Expr}

/-- **An anchor in front.** Outside of all groups there is no `|`, and no quantifier lets the anchor
go. -/
theorem startsAnchored_of_parse (h : Expr.parse text = .ok e) {depth : Nat} {rest : List Token}
    (htokens : tokens text = .atom ⟨.look .textStart, depth⟩ :: rest)
    (hbar : .bar ∉ outermost 0 (tokens text)) (hfast : holdsFast rest) : e.startsAnchored := by
  obtain ⟨lexemes, s, hsteps, hfinish⟩ := Expr.parse_eq_ok_iff.mp h
  obtain ⟨houter, -, rfl⟩ := State.finish_eq_ok hfinish
  have hbranches := hsteps.branches_base (by rwa [← lexemesFrom_of_steps hsteps]) rfl
  rw [tokens, lexemesFrom_of_steps hsteps] at htokens hbar
  cases hsteps with
  | refl => cases htokens
  | cons step steps =>
    obtain ⟨hfirst, rfl⟩ := List.cons.inj htokens
    have happly := step.apply
    dsimp only at hfirst
    rw [hfirst] at happly
    cases happly
    have hfront := steps.fronted_base
      (fun hmem => hbar (outermost_of_apply step.apply hmem)) ⟨[], _, rfl, rfl⟩ fun _ => hfast
    rw [State.base_of_outer_eq_nil houter] at hbranches hfront
    obtain ⟨items, p, hitems, hp⟩ := hfront
    have hanchor : p.expr.startsAnchored := by
      rw [hp]
      rfl
    rw [Level.expr_contents hbranches, hitems, List.reverse_append, List.map_append]
    exact Expr.startsAnchored_cats hanchor _

/-- **An anchor at the end.** Outside of all groups there is no `|`, and the last token is the
anchor. -/
theorem stopsAnchored_of_parse (h : Expr.parse text = .ok e) {depth : Nat}
    (hlast : (tokens text).getLast? = some (.atom ⟨.look .textEnd, depth⟩))
    (hbar : .bar ∉ outermost 0 (tokens text)) : e.stopsAnchored := by
  obtain ⟨lexemes, s, hsteps, hfinish⟩ := Expr.parse_eq_ok_iff.mp h
  obtain ⟨houter, -, rfl⟩ := State.finish_eq_ok hfinish
  rw [tokens, lexemesFrom_of_steps hsteps] at hlast hbar
  have hbranches := hsteps.branches_base hbar rfl
  rw [State.base_of_outer_eq_nil houter] at hbranches
  rw [List.getLast?_map] at hlast
  obtain ⟨l, hl, htoken⟩ := Option.map_eq_some_iff.mp hlast
  obtain ⟨s₁, cs₁, step⟩ := hsteps.exists_last hl
  have happly := step.apply
  rw [htoken] at happly
  cases happly
  rw [Level.expr_contents hbranches]
  show (Expr.cats ((_ :: s₁.level.items).reverse.map _)).stopsAnchored
  rw [List.reverse_cons, List.map_append]
  exact Expr.stopsAnchored_cats rfl _

end

end PathRouter.Regex
