import PathRouter.Proofs.Regex.Anchors
import PathRouter.Proofs.Regex.Local
import PathRouter.Proofs.Regex.Openings
import PathRouter.Proofs.Regex.Tokens

/-!
# Texts within groups

What a text spells by itself it also spells within a group: the parser takes the same steps there,
with the groups around below those that the text opens. So what is read within a group is told by
its text, and what the text did to the flags is forgotten when the group ends.

* `State.under` puts groups and names below those of a state; `Step.under` is the step and
  `Steps.under` the run.
* `SpellsWithin` is about the whole text of a group with the parenthesis that ends it. It holds of
  all that is an expression by itself (`spellsWithin_of_parse`), and of such a text in parentheses
  (`SpellsWithin.parenthesized`).
-/

namespace PathRouter.Regex

/-! ## Groups around -/

namespace State

/-- The state with more groups around it, and more names that were met before. -/
def under (s : State) (outer : List (GroupKind × Level)) (names : List String) : State :=
  { s with outer := s.outer ++ outer, names := s.names ++ names }

/-- What a token does within the groups that a text opened does not depend on those around. -/
theorem apply_under {s s' : State} {token : Token} (h : s.apply token = .ok s')
    (outer : List (GroupKind × Level)) (names : List String) :
    (s.under outer names).apply token = .ok (s'.under outer names) := by
  obtain ⟨level, own, met⟩ := s
  cases token with
  | openGroup kind =>
    cases h
    simp [apply, under]
  | closeGroup =>
    cases own with
    | nil => cases h
    | cons inner own =>
      cases h
      rfl
  | quantifier q =>
    obtain ⟨level', hquantify, rfl⟩ := apply_quantifier h
    show (level.quantify q >>= fun level => _) = _
    rw [hquantify]
    rfl
  | bar | setFlags _ | atom _ | blank =>
    cases h
    rfl

end State

/-- The lexeme where a parenthesis and more text stand behind its text. -/
def Lexeme.before (l : Lexeme) (more : List Char) : Lexeme :=
  { l with text := l.text ++ ')' :: more }

variable {s s' : State} {cs rest : List Char}

/-- **The step.** -/
theorem Step.under {lexeme : Lexeme} (h : Step s cs lexeme s' rest) (hsign : '#' ∉ cs)
    (outer : List (GroupKind × Level)) (names : List String) (more : List Char) :
    Step (s.under outer names) (cs ++ ')' :: more) (lexeme.before more) (s'.under outer names)
      (rest ++ ')' :: more) := by
  obtain ⟨c, tail, rfl, hread⟩ := h.read
  rw [List.mem_cons, not_or] at hsign
  refine ⟨by rw [Lexeme.before, h.text], ⟨c, tail ++ ')' :: more, rfl, ?_⟩,
    State.apply_under h.apply outer names⟩
  exact Token.local_read s.level.flags (Ne.symm hsign.1) tail _ rest hsign.2 hread more

/-- **The run.** -/
theorem Steps.under {lexemes : List Lexeme} (h : Steps s cs lexemes s' rest) (hsign : '#' ∉ cs)
    (outer : List (GroupKind × Level)) (names : List String) (more : List Char) :
    Steps (s.under outer names) (cs ++ ')' :: more) (lexemes.map (·.before more))
      (s'.under outer names) (rest ++ ')' :: more) := by
  induction h with
  | refl => exact .refl _ _
  | cons step _ ih =>
    obtain ⟨c, tail, rfl, hread⟩ := step.read
    have hsuffix := (Reader.suffix_of_run hread).trans (List.suffix_cons c tail)
    exact .cons (step.under hsign outer names more) (ih fun hmem => hsign (hsuffix.mem hmem))

/-! ## A whole group -/

/-- A closing parenthesis ends a group whatever the flags. -/
theorem Token.run_read_close (f : Flags) (rest : List Char) :
    (Token.read f ')').run rest = .ok (.closeGroup, rest) := by
  rw [Token.read, show Unicode.isSpace ')' = false by decide]
  simp

/-- What `text` stands for within a group is `e`, whatever group it is and whatever is around it.
The level around the group gets one piece more and keeps its flags. -/
def SpellsWithin (text : List Char) (e : Expr) : Prop :=
  ∀ (level : Level), level.flags = {} → ∀ (name : Option String) (outer : List (GroupKind × Level))
    (names : List String) (more : List Char), ∃ lexemes depth met,
      Steps ⟨.start level.flags, (.capture name, level) :: outer, names⟩ (text ++ ')' :: more)
        lexemes ⟨level.add ⟨.group name e, depth⟩, outer, met⟩ more

/-- **What a text spells by itself it spells within a group.** -/
theorem spellsWithin_of_parse {text : List Char} {e : Expr} (h : Expr.parse text = .ok e)
    (hsign : '#' ∉ text) : SpellsWithin text e := by
  intro level hflags name outer names more
  obtain ⟨lexemes, s, hsteps, hfinish⟩ := Expr.parse_eq_ok_iff.mp h
  obtain ⟨houter, -, rfl⟩ := State.finish_eq_ok hfinish
  have hunder := hsteps.under hsign ((.capture name, level) :: outer) names more
  -- at the end of the text its own groups are closed, so that the parenthesis ends this one
  have hclose : (s.under ((.capture name, level) :: outer) names).apply .closeGroup =
      .ok ⟨level.add (State.wrap (.capture name) s.level.contents), outer, s.names ++ names⟩ := by
    rw [State.under, houter]
    rfl
  rw [hflags]
  exact ⟨_, _, _, hunder.trans (.single (.of_run (Token.run_read_close _ more) hclose))⟩

/-! ## A group in a group -/

/-- There is nothing to repeat where a text begins. -/
theorem Expr.head?_ne_of_parse {text : List Char} {e : Expr} (h : Expr.parse text = .ok e) :
    text.head? ≠ some '?' := by
  intro hhead
  obtain ⟨rest, rfl⟩ := List.head?_eq_some_iff.mp hhead
  obtain ⟨_, s, hsteps, -⟩ := Expr.parse_eq_ok_iff.mp h
  cases hsteps with
  | cons step _ =>
    obtain ⟨c, tail, htext, hread⟩ := step.read
    obtain ⟨rfl, rfl⟩ := List.cons.inj htext
    have hyields : (Token.turnable 0 (some 1)).Yields fun token => ∃ q, token = .quantifier q :=
      Reader.yields_bind fun _ => Reader.yields_pure ⟨_, rfl⟩
    obtain ⟨q, htoken⟩ := hyields _ _ _ hread
    obtain ⟨_, hquantify, -⟩ := State.apply_quantifier (htoken ▸ step.apply)
    cases hquantify

/-- **A text in parentheses spells a group more**, unless they are what gives it its meaning. -/
theorem SpellsWithin.parenthesized {text : List Char} {e : Expr} (h : SpellsWithin text e)
    (hhead : text.head? ≠ some '?') : SpellsWithin ('(' :: text ++ [')']) (.group none e) := by
  intro level hflags name outer names more
  let around : List (GroupKind × Level) := (.capture name, level) :: outer
  have hopen : (Token.read (Level.start level.flags).flags '(').run (text ++ ')' :: ')' :: more) =
      .ok (.openGroup (.capture none), text ++ ')' :: ')' :: more) := by
    refine Token.run_read_openUnnamed ?_ ?_
    · show level.flags.verbose = false
      rw [hflags]
    · cases text with
      | nil => simp
      | cons c text => exact hhead
  obtain ⟨lexemes, depth, met, hinner⟩ :=
    h (.start level.flags) hflags none around names (')' :: more)
  -- the outer group holds the inner one and nothing else
  have hcontents : ((Level.start level.flags).add ⟨.group none e, depth⟩).contents.expr =
      .group none e := Level.expr_contents rfl
  have hclose : State.apply ⟨(Level.start level.flags).add ⟨.group none e, depth⟩, around, met⟩
      .closeGroup = .ok ⟨level.add (State.wrap (.capture name)
        ((Level.start level.flags).add ⟨.group none e, depth⟩).contents), outer, met⟩ := rfl
  rw [State.wrap, hcontents] at hclose
  have hsteps := Steps.cons (.of_run (s := ⟨.start level.flags, around, names⟩) hopen rfl)
    (hinner.trans (.single (.of_run (Token.run_read_close _ more) hclose)))
  rw [List.append_assoc]
  exact ⟨_, _, _, hsteps⟩

end PathRouter.Regex
