import PathRouter.Regex.Parser

/-!
# Readers as functions, and the parser as a sequence of steps

A reader gives what it leaves together with the fact that this is an end of what it was given;
`Reader.run` forgets that fact, so that the result of a reader on a text can be computed from those
of its parts.

* `Reader.run_bind` and the equations beside it evaluate a reader on a text of which the front is
  known.
* `Step` is one token of the parser: what it reads and what that makes of the state. `Steps` is a
  sequence of them, which can be cut and joined anywhere between two tokens (`Steps.trans`).
* `parse_eq_ok_iff`: a text spells an expression exactly if steps lead to its end, and the state
  there is finished.
-/

namespace PathRouter.Regex

/-! ## Readers -/

namespace Reader

variable {α β σ : Type}

/-- The value that a reader finds and what it leaves. -/
def run (r : Reader α) (cs : List Char) : Except SyntaxError (α × List Char) :=
  (r cs).map fun a => (a.value, a.rest)

theorem run_eq_ok_iff {r : Reader α} {cs rest : List Char} {a : α} :
    r.run cs = .ok (a, rest) ↔ ∃ h, r cs = .ok ⟨a, rest, h⟩ := by
  unfold run
  cases hr : r cs with
  | error e => simp [Except.map]
  | ok b =>
    obtain ⟨value, rest', h⟩ := b
    simp only [Except.map, Except.ok.injEq, Prod.mk.injEq, Reading.mk.injEq]
    exact ⟨fun heq => ⟨heq.2 ▸ h, heq⟩, fun ⟨_, heq⟩ => heq⟩

theorem suffix_of_run {r : Reader α} {cs rest : List Char} {a : α}
    (h : r.run cs = .ok (a, rest)) : rest <:+ cs :=
  (run_eq_ok_iff.mp h).1

@[simp] theorem run_pure (a : α) (cs : List Char) : (pure a : Reader α).run cs = .ok (a, cs) := rfl

/-- A reader after another one reads what that one leaves. -/
theorem run_bind (r : Reader α) (f : α → Reader β) (cs : List Char) :
    (r >>= f).run cs = (r.run cs).bind fun a => (f a.1).run a.2 := by
  show (andThen r f).run cs = _
  unfold run andThen
  cases r cs with
  | error e => rfl
  | ok a =>
    simp only [Except.map, Except.bind]
    cases f a.value a.rest <;> rfl

/-- A reader after another one that succeeds. -/
theorem run_bind_of_ok {r : Reader α} {f : α → Reader β} {cs rest : List Char} {a : α}
    (h : r.run cs = .ok (a, rest)) : (r >>= f).run cs = (f a).run rest := by
  rw [run_bind, h]
  rfl

theorem run_accept_other {c d : Char} (h : d ≠ c) (rest : List Char) :
    (accept c).run (d :: rest) = .ok (false, d :: rest) := by
  simp [run, accept, h, Except.map]

theorem run_accept_of_head? {c : Char} {rest : List Char} (h : rest.head? ≠ some c) :
    (accept c).run rest = .ok (false, rest) := by
  cases rest with
  | nil => rfl
  | cons d rest => exact run_accept_other (fun hd => h (congrArg some hd)) rest

theorem run_acceptText (w cs : List Char) :
    (acceptText w).run cs =
      .ok (if w.isPrefixOf cs then (true, cs.drop w.length) else (false, cs)) := by
  unfold run acceptText
  split <;> rfl

theorem run_oneOf_cons (w : List Char) (a : α) (more : List (List Char × α)) (cs : List Char) :
    (oneOf ((w, a) :: more)).run cs =
      if w.isPrefixOf cs then .ok (some a, cs.drop w.length) else (oneOf more).run cs := by
  rw [oneOf, run_bind, run_acceptText]
  split <;> simp [Except.bind]

@[simp] theorem run_oneOf_nil (cs : List Char) :
    (oneOf ([] : List (List Char × α))).run cs = .ok (none, cs) := rfl

@[simp] theorem run_blank (verbose : Bool) (cs : List Char) :
    (blank verbose).run cs = .ok ((), skipBlank verbose cs) := rfl

section Loop

variable (step : σ → Char → Reader (σ ⊕ α)) (atEnd : σ → Except SyntaxError α) (state : σ)

theorem run_loop_nil : (loop step atEnd state).run [] = (atEnd state).map (·, []) := by
  rw [run, loop]
  cases atEnd state <;> rfl

theorem run_loop_cons (c : Char) (cs : List Char) :
    (loop step atEnd state).run (c :: cs) =
      ((step state c).run cs).bind fun
        | (.inr a, rest) => .ok (a, rest)
        | (.inl state, rest) => (loop step atEnd state).run rest := by
  rw [run, loop, run]
  cases step state c cs with
  | error e => rfl
  | ok r =>
    obtain ⟨value, rest, h⟩ := r
    cases value with
    | inr a => rfl
    | inl state =>
      simp only [Except.map, Except.bind, run]
      cases loop step atEnd state rest <;> rfl

variable {step atEnd state}

/-- A round that goes on. -/
theorem run_loop_inl {t : σ} {c : Char} {cs rest : List Char}
    (h : (step state c).run cs = .ok (.inl t, rest)) :
    (loop step atEnd state).run (c :: cs) = (loop step atEnd t).run rest := by
  rw [run_loop_cons, h]
  rfl

/-- A round that ends the loop. -/
theorem run_loop_inr {a : α} {c : Char} {cs rest : List Char}
    (h : (step state c).run cs = .ok (.inr a, rest)) :
    (loop step atEnd state).run (c :: cs) = .ok (a, rest) := by
  rw [run_loop_cons, h]
  rfl

end Loop

/-! ### What all values of a reader have in common -/

/-- Every value that the reader finds satisfies `P`. -/
def Yields (r : Reader α) (P : α → Prop) : Prop :=
  ∀ cs a rest, r.run cs = .ok (a, rest) → P a

theorem yields_pure {P : α → Prop} {a : α} (h : P a) : Yields (pure a : Reader α) P := by
  intro cs b rest hrun
  cases hrun
  exact h

theorem yields_throw (e : SyntaxError) (P : α → Prop) : Yields (throw e : Reader α) P := by
  intro cs b rest hrun
  cases hrun

theorem yields_throw_bind (e : SyntaxError) (f : β → Reader α) (P : α → Prop) :
    Yields (throw e >>= f) P := by
  intro cs b rest hrun
  cases hrun

/-- The last reader of several decides. -/
theorem yields_bind {P : β → Prop} {r : Reader α} {f : α → Reader β} (h : ∀ a, Yields (f a) P) :
    Yields (r >>= f) P := by
  intro cs b rest hrun
  rw [run_bind] at hrun
  cases hr : r.run cs with
  | error e =>
    rw [hr] at hrun
    cases hrun
  | ok a =>
    rw [hr] at hrun
    exact h a.1 a.2 b rest hrun

end Reader

/-- What no blank stands in front of is left as it is. -/
theorem skipBlank_cons {c : Char} (hspace : Unicode.isSpace c = false) (hsign : c ≠ '#')
    (verbose : Bool) (rest : List Char) : skipBlank verbose (c :: rest) = c :: rest := by
  cases verbose <;> simp [skipBlank, dropBlank, hspace, hsign]

@[simp] theorem skipBlank_false (cs : List Char) : skipBlank false cs = cs := rfl

/-! ## Steps of the parser -/

/-- A token where it stands: with the text from its first character on. -/
structure Lexeme where
  text : List Char
  token : Token
deriving DecidableEq, Repr

/-- From the state `s`, in front of the text `cs`, the parser reads `lexeme`, which leads it to `s'`
and leaves `rest`. -/
structure Step (s : State) (cs : List Char) (lexeme : Lexeme) (s' : State) (rest : List Char) :
    Prop where
  text : lexeme.text = cs
  read : ∃ c tail, cs = c :: tail ∧
    (Token.read s.level.flags c).run tail = .ok (lexeme.token, rest)
  apply : s.apply lexeme.token = .ok s'

/-- A sequence of steps. -/
inductive Steps : State → List Char → List Lexeme → State → List Char → Prop where
  | refl (s : State) (cs : List Char) : Steps s cs [] s cs
  | cons {s s' s'' : State} {cs cs' cs'' : List Char} {lexeme : Lexeme} {lexemes : List Lexeme}
      (step : Step s cs lexeme s' cs') (steps : Steps s' cs' lexemes s'' cs'') :
      Steps s cs (lexeme :: lexemes) s'' cs''

namespace Steps

variable {s s' s'' : State} {cs cs' cs'' : List Char} {lexemes lexemes' : List Lexeme}

theorem trans (h : Steps s cs lexemes s' cs') (h' : Steps s' cs' lexemes' s'' cs'') :
    Steps s cs (lexemes ++ lexemes') s'' cs'' := by
  induction h with
  | refl => exact h'
  | cons step _ ih => exact .cons step (ih h')

/-- One step. -/
theorem single {lexeme : Lexeme} (h : Step s cs lexeme s' cs') : Steps s cs [lexeme] s' cs' :=
  .cons h (.refl s' cs')

end Steps

/-- One token that is read and taken in is a step. -/
theorem Step.of_run {s t : State} {c : Char} {tail rest : List Char} {token : Token}
    (hread : (Token.read s.level.flags c).run tail = .ok (token, rest))
    (happly : s.apply token = .ok t) : Step s (c :: tail) ⟨c :: tail, token⟩ t rest :=
  ⟨rfl, ⟨c, tail, rfl, hread⟩, happly⟩

/-- A step leaves less than it found. -/
theorem Step.length_lt {s s' : State} {cs rest : List Char} {lexeme : Lexeme}
    (h : Step s cs lexeme s' rest) : rest.length < cs.length := by
  obtain ⟨c, tail, rfl, hread⟩ := h.read
  exact Nat.lt_succ_of_le (Reader.suffix_of_run hread).length_le

namespace Expr

/-- One round of the parser's loop. -/
theorem run_parseFrom_cons (s : State) (c : Char) (cs : List Char) :
    (parseFrom s).run (c :: cs) =
      ((Token.read s.level.flags c).run cs).bind fun t =>
        (s.apply t.1).bind fun s' => (parseFrom s').run t.2 := by
  rw [parseFrom, Reader.run_loop_cons, Reader.run_bind]
  cases (Token.read s.level.flags c).run cs with
  | error e => rfl
  | ok t =>
    simp only [Except.bind]
    cases s.apply t.1 <;> rfl

/-- Reading to the end of a text is taking steps to its end. -/
theorem run_parseFrom_eq_ok_iff {s s' : State} {cs rest : List Char} :
    (parseFrom s).run cs = .ok (s', rest) ↔ rest = [] ∧ ∃ lexemes, Steps s cs lexemes s' [] := by
  constructor
  · intro h
    induction hlen : cs.length using Nat.strongRecOn generalizing s cs with
    | ind n ih =>
    cases cs with
    | nil =>
      rw [parseFrom, Reader.run_loop_nil] at h
      cases h
      exact ⟨rfl, [], .refl _ _⟩
    | cons c cs =>
      rw [run_parseFrom_cons] at h
      cases hread : (Token.read s.level.flags c).run cs with
      | error e => rw [hread] at h; cases h
      | ok t =>
        rw [hread] at h
        simp only [Except.bind] at h
        cases happly : s.apply t.1 with
        | error e => rw [happly] at h; cases h
        | ok mid =>
          rw [happly] at h
          -- one step, and the rest by induction on the length of what it leaves
          have hstep : Step s (c :: cs) ⟨c :: cs, t.1⟩ mid t.2 := .of_run hread happly
          obtain ⟨hrest, lexemes, hsteps⟩ := ih _ (hlen ▸ hstep.length_lt) h rfl
          exact ⟨hrest, _, .cons hstep hsteps⟩
  · rintro ⟨rfl, lexemes, hsteps⟩
    generalize hend : ([] : List Char) = tail at hsteps
    induction hsteps with
    | refl s cs =>
      subst hend
      rw [parseFrom, Reader.run_loop_nil]
      rfl
    | cons step _ ih =>
      obtain ⟨c, cs, rfl, hread⟩ := step.read
      rw [run_parseFrom_cons, hread]
      simp only [Except.bind, step.apply]
      exact ih hend

/-- The steps to the end of a text lead to one state. -/
theorem state_eq_of_steps {s s' t : State} {cs : List Char} {lexemes lexemes' : List Lexeme}
    (h : Steps s cs lexemes s' []) (h' : Steps s cs lexemes' t []) : s' = t := by
  have hs := run_parseFrom_eq_ok_iff.mpr ⟨rfl, lexemes, h⟩
  have ht := run_parseFrom_eq_ok_iff.mpr ⟨rfl, lexemes', h'⟩
  rw [hs] at ht
  cases ht
  rfl

/-- The parser before it reads anything. -/
def startState : State := ⟨.start {}, [], []⟩

/-- **A text spells an expression exactly if the parser gets to its end in steps and the state there
gives that expression.** -/
theorem parse_eq_ok_iff {text : List Char} {e : Expr} :
    parse text = .ok e ↔
      ∃ lexemes s, Steps startState text lexemes s [] ∧ s.finish = .ok e := by
  have hrun : parse text = ((parseFrom startState).run text).bind fun r => r.1.finish := by
    unfold parse Reader.run startState
    cases parseFrom ⟨.start {}, [], []⟩ text <;> rfl
  rw [hrun]
  constructor
  · intro h
    cases hparse : (parseFrom startState).run text with
    | error e => rw [hparse] at h; cases h
    | ok r =>
      rw [hparse] at h
      obtain ⟨hrest, lexemes, hsteps⟩ := run_parseFrom_eq_ok_iff.mp hparse
      exact ⟨lexemes, r.1, hsteps, h⟩
  · rintro ⟨lexemes, s, hsteps, hfinish⟩
    rw [run_parseFrom_eq_ok_iff.mpr ⟨rfl, lexemes, hsteps⟩]
    exact hfinish

end Expr

end PathRouter.Regex
