import PathRouter.Proofs.Regex.Leads
import PathRouter.Proofs.Regex.LeftmostFirst

/-!
# What the search finds

Whatever the expression, steady or not, a match that the search finds is one to which the
expression leads. Threads may be dropped and rounds cut short, so nothing is said about which of the
matches is found; but nothing is found that is none.

* `Bound good p goals marks` is the invariant of a thread: however its goals lead on from `p`, that
  ends well. `Frontier.Sound` is the invariant of a frontier, whose threads are all bound.
* `Preserves` says that an `Advance` keeps a frontier sound if the thread it goes on with is bound.
  `preserves_advance` and `preserves_resume` are the step, by induction on the expression and on the
  goals; `exists_of_run` is the run over the rest of the text.
* `leads_of_search`: the search finds only what the expression leads to.
-/

namespace PathRouter.Regex

/-- Where a match may end, and with which marks. -/
abbrev Outcome : Type := Place → List Mark → Prop

/-- However the goals lead on from `p` behind the marks, the outcome is good. -/
def Bound (good : Outcome) (p : Place) (goals : List Goal) (marks : List Mark) : Prop :=
  ∀ w, GoalsLead goals p w → good w.stop (w.marks ++ marks)

/-- All that a frontier holds has a good outcome. -/
structure Frontier.Sound (good : Outcome) (p : Place) (f : Frontier) : Prop where
  threads : ∀ t ∈ f.threads, Bound good p (.expr (.chars t.set) :: t.goals) t.marks
  done : ∀ marks ∈ f.done, good p marks

/-- Going on with `next` from goals whose outcome is good keeps a frontier sound. -/
def Preserves (good : Outcome) (p : Place) (goals : List Goal) (next : Advance) : Prop :=
  ∀ marks f, Bound good p goals marks → f.Sound good p → (next marks f).Sound good p

variable {good : Outcome} {p : Place}

namespace Bound

variable {goal : Goal} {goals goals' : List Goal} {marks : List Mark}

/-- Goals that lead on in fewer ways. -/
theorem mono (h : Bound good p goals marks)
    (hgoals : ∀ {w}, GoalsLead goals' p w → GoalsLead goals p w) : Bound good p goals' marks :=
  fun w hw => h w (hgoals hw)

/-- Behind the end of a group the mark of that end is there. -/
theorem close {name : String} (h : Bound good p (.close name :: goals) marks) :
    Bound good p goals (.closed name p.pos :: marks) := by
  intro w hw
  have hclosed := h _ (.cons rfl hw)
  rwa [Way.behind_stop, Way.behind_marks, List.append_assoc] at hclosed

/-- Within a group the mark of its beginning is there, and its end is one goal more. -/
theorem named {name : String} {e : Expr}
    (h : Bound good p (.expr (.group (some name) e) :: goals) marks) :
    Bound good p (.expr e :: .close name :: goals) (.opened name p.pos :: marks) := by
  intro w hw
  cases hw with
  | @cons _ _ _ v u hfirst hmore =>
    cases hmore with
    | @cons _ _ _ v' u' hclose hrest =>
      cases hclose
      have hgroup := h _ (.cons (Expr.Leads.groupNamed hfirst) hrest)
      simpa using hgroup

end Bound

namespace Preserves

variable {goals goals' : List Goal} {next next' : Advance}

/-- What goes on from `goals'` goes on from goals that lead on in more ways. -/
theorem mono (h : Preserves good p goals' next)
    (hgoals : ∀ {w}, GoalsLead goals' p w → GoalsLead goals p w) : Preserves good p goals next :=
  fun marks f hmarks hf => h marks f (hmarks.mono hgoals) hf

/-- To enter goals changes nothing that counts. -/
theorem enter (h : Preserves good p goals next) (entered : List Goal) :
    Preserves good p goals (Frontier.enter entered next) := by
  intro marks f hmarks hf
  unfold Frontier.enter
  split
  · exact hf
  · exact h marks _ hmarks ⟨hf.threads, hf.done⟩

theorem choose (h : Preserves good p goals next) (h' : Preserves good p goals next')
    (greedy : Bool) : Preserves good p goals (Regex.choose greedy next next') := by
  intro marks f hmarks hf
  unfold Regex.choose
  split
  · exact h' marks _ hmarks (h marks f hmarks hf)
  · exact h marks _ hmarks (h' marks f hmarks hf)

end Preserves

/-! ## The leaves of the search -/

theorem preserves_stay (goals : List Goal) : Preserves good p goals Frontier.stay :=
  fun _ _ _ hf => hf

theorem preserves_finish : Preserves good p [] Frontier.finish := by
  intro marks f hmarks hf
  unfold Frontier.finish
  split
  · exact hf
  · refine ⟨hf.threads, fun marks' hmarks' => ?_⟩
    cases hmarks'
    exact hmarks ⟨p, []⟩ (.nil p)

theorem preserves_wait (set : CharSet) (goals : List Goal) :
    Preserves good p (.expr (.chars set) :: goals) (Frontier.wait set goals) := by
  intro marks f hmarks hf
  unfold Frontier.wait
  split
  · exact hf
  · exact ⟨List.forall_mem_cons.mpr ⟨hmarks, hf.threads⟩, hf.done⟩

/-! ## Repetition -/

section Repetition

variable {e : Expr} {greedy : Bool} {body : List Goal → Advance → Advance}
variable {goals : List Goal} {next : Advance}

theorem preserves_rounds
    (hbody : ∀ goals next, Preserves good p goals next →
      Preserves good p (.expr e :: goals) (body goals next))
    (hnext : Preserves good p goals next) :
    Preserves good p (.expr e :: .round e greedy :: goals) (rounds e greedy body goals next) := by
  -- behind a round that took up nothing the thread goes on as if there were no more
  have hstop : Preserves good p (.round e greedy :: goals) next :=
    hnext.mono (GoalsLead.of_stay (g := .round e greedy) (.repStop p))
  exact hbody _ _ (hstop.enter _)

theorem preserves_anyRounds
    (hbody : ∀ goals next, Preserves good p goals next →
      Preserves good p (.expr e :: goals) (body goals next))
    (hnext : Preserves good p goals next) :
    Preserves good p (.expr (.rep 0 none greedy e) :: goals)
      (anyRounds e greedy body goals next) := by
  have hstop : Preserves good p (.expr (.rep 0 none greedy e) :: goals) next :=
    hnext.mono (GoalsLead.of_stay (g := .expr _) (.repStop p))
  unfold anyRounds
  refine Preserves.choose ?_ hstop greedy
  split
  · exact (preserves_rounds hbody hnext).mono (GoalsLead.join (g := .expr _) .repAny)
  · exact (hbody _ _ (preserves_stay _)).mono (GoalsLead.join (g := .expr _) .repAny)

theorem preserves_upTo
    (hbody : ∀ goals next, Preserves good p goals next →
      Preserves good p (.expr e :: goals) (body goals next))
    (hnext : Preserves good p goals next) (n : Nat) :
    Preserves good p (.expr (.rep 0 (some n) greedy e) :: goals)
      (upTo e greedy body n goals next) := by
  have hstop (n : Nat) : Preserves good p (.expr (.rep 0 (some n) greedy e) :: goals) next :=
    hnext.mono (GoalsLead.of_stay (g := .expr _) (.repStop p))
  induction n with
  | zero => exact hstop 0
  | succ n ih =>
    have hround := (hbody _ _ (ih.enter (.expr (.rep 0 (some n) greedy e) :: goals))).mono
      (GoalsLead.join (g := .expr (.rep 0 (some (n + 1)) greedy e)) .repUpTo)
    exact hround.choose (hstop (n + 1)) greedy

theorem preserves_repeatRounds
    (hbody : ∀ goals next, Preserves good p goals next →
      Preserves good p (.expr e :: goals) (body goals next))
    (hnext : Preserves good p goals next) (min : Nat) (extra : Option Nat) :
    Preserves good p (.expr (.rep min extra greedy e) :: goals)
      (repeatRounds e greedy body min extra goals next) := by
  fun_induction repeatRounds e greedy body min extra goals next with
  | case1 => exact preserves_anyRounds hbody hnext
  | case2 => exact preserves_upTo hbody hnext _
  | case3 goals next =>
    have hround : Preserves good p (.expr e :: .round e greedy :: goals) _ :=
      preserves_rounds hbody hnext
    exact hround.mono (GoalsLead.join (g := .expr _) .repMin)
  | case4 min extra goals next goals' hnot ih =>
    exact (hbody _ _ ((ih hnext).enter _)).mono (GoalsLead.join (g := .expr _) .repMin)

end Repetition

/-! ## The step -/

/-- **The step on an expression.** -/
theorem preserves_advance (e : Expr) {goals : List Goal} {next : Advance}
    (hnext : Preserves good p goals next) :
    Preserves good p (.expr e :: goals) (e.advance p.around p.pos goals next) := by
  induction e generalizing goals next with
  | empty =>
    rw [Expr.advance]
    exact (hnext.mono (GoalsLead.of_stay (g := .expr _) (.empty p))).enter _
  | chars s =>
    rw [Expr.advance]
    exact (preserves_wait s goals).enter _
  | look l =>
    rw [Expr.advance]
    refine Preserves.enter ?_ _
    intro marks f hmarks hf
    dsimp only
    split
    · next holds =>
      exact hnext marks f (hmarks.mono (GoalsLead.of_stay (g := .expr _) (.look holds))) hf
    · exact hf
  | cat a b iha ihb =>
    rw [Expr.advance]
    exact ((iha (ihb hnext)).mono (GoalsLead.join (g := .expr _) .cat)).enter _
  | alt a b iha ihb =>
    rw [Expr.advance]
    refine Preserves.enter ?_ _
    intro marks f hmarks hf
    have hleft := iha hnext marks f (hmarks.mono (GoalsLead.weaken (g := .expr _) .altLeft)) hf
    exact ihb hnext marks _ (hmarks.mono (GoalsLead.weaken (g := .expr _) .altRight)) hleft
  | rep min extra greedy e ih =>
    rw [Expr.advance]
    exact (preserves_repeatRounds (fun _ _ h => ih h) hnext min extra).enter _
  | group name e ih =>
    cases name with
    | none =>
      rw [Expr.advance]
      exact ((ih hnext).mono (GoalsLead.weaken (g := .expr _) .groupPlain)).enter _
    | some name =>
      rw [Expr.advance]
      refine Preserves.enter ?_ _
      intro marks f hmarks hf
      -- behind `e` the group is closed, and then `next` goes on
      have hclose : Preserves good p (.close name :: goals)
          fun marks f => next (.closed name p.pos :: marks) f :=
        fun marks f hmarks hf => hnext _ f hmarks.close hf
      exact ih hclose _ f hmarks.named hf

/-- **The step on goals.** -/
theorem preserves_resume (goals : List Goal) :
    Preserves good p goals (resume p.around p.pos goals) := by
  induction goals with
  | nil => exact preserves_finish
  | cons goal goals ih =>
    cases goal with
    | expr e => exact preserves_advance e ih
    | close name => exact fun marks f hmarks hf => ih _ f hmarks.close hf
    | round e greedy =>
      have hround : Preserves good p (.expr e :: .round e greedy :: goals) _ :=
        preserves_rounds (fun _ _ => preserves_advance e) ih
      have hmore := hround.mono (GoalsLead.join (g := .round e greedy) .repAny)
      have hstop := ih.mono (GoalsLead.of_stay (g := .round e greedy) (.repStop p))
      exact (hmore.choose hstop greedy).enter _

/-! ## The run -/

theorem sound_empty (good : Outcome) (p : Place) : Frontier.empty.Sound good p where
  threads := fun _ ht => nomatch ht
  done := fun _ hmarks => nomatch hmarks

/-- Moving threads over a character keeps their outcomes good. -/
theorem sound_move {c : Char} {rest : List Char} (hrest : p.rest = c :: rest)
    {threads : List Thread}
    (hthreads : ∀ t ∈ threads, Bound good p (.expr (.chars t.set) :: t.goals) t.marks) :
    (move c (p.step c rest).around (p.step c rest).pos threads).Sound good (p.step c rest) := by
  have hfold (f : Frontier) (hf : f.Sound good (p.step c rest)) :
      (threads.foldl (fun f t => if t.set.contains c then
        resume (p.step c rest).around (p.step c rest).pos t.goals t.marks f else f) f).Sound
          good (p.step c rest) := by
    induction threads generalizing f with
    | nil => exact hf
    | cons t threads ih =>
      obtain ⟨ht, hthreads⟩ := List.forall_mem_cons.mp hthreads
      refine ih hthreads _ ?_
      dsimp only
      split
      · next hc =>
        -- the thread has taken the character, and its goals lead on from behind it
        refine preserves_resume t.goals t.marks f (fun w hw => ?_) hf
        have hchar := ht _ (.cons (Expr.Leads.chars hrest hc) hw)
        rwa [Way.behind_stop, Way.behind_marks, List.append_nil] at hchar
      · exact hf
  exact hfold .empty (sound_empty good _)

/-- The match has the outcome of some place. -/
def Match.IsGood (good : Outcome) (start : Nat) (m : Match) : Prop :=
  ∃ q, good q m.marks ∧ m.start = start ∧ m.stop = q.pos

/-- **The run**: what is found in the end has a good outcome. -/
theorem exists_of_run {start : Nat} {best : Option Match} {threads : List Thread} {p : Place}
    (hbest : ∀ m ∈ best, m.IsGood good start)
    (hthreads : ∀ t ∈ threads, Bound good p (.expr (.chars t.set) :: t.goals) t.marks) :
    ∀ m ∈ run start best threads p.pos p.rest, m.IsGood good start := by
  obtain ⟨before, pos, rest⟩ := p
  induction rest generalizing before pos best threads with
  | nil => exact hbest
  | cons c rest ih =>
    rw [run]
    split
    · exact hbest
    · have hsound := sound_move (p := ⟨before, pos, c :: rest⟩) rfl hthreads
      refine ih ?_ (some c) (pos + 1) fun t ht => hsound.threads t (List.mem_reverse.mp ht)
      -- the best match is the one that is done at this position, or else the one before
      intro m hm
      rw [Option.orElse_eq_orElse, Option.orElse_eq_or, Option.mem_def, Option.or_eq_some_iff] at hm
      rcases hm with hm | ⟨-, hm⟩
      · obtain ⟨marks, hdone, rfl⟩ := Option.map_eq_some_iff.mp hm
        exact ⟨_, hsound.done marks hdone, rfl, rfl⟩
      · exact hbest m hm

/-- A match from a place is one to which the expression leads from there. -/
theorem leads_of_matchAt {e : Expr} {p : Place} {m : Match}
    (h : e.matchAt p.before p.pos p.rest = some m) :
    ∃ w, e.Leads p w ∧ m = .ofWay p.pos w := by
  have hbound : Bound (fun q marks => e.Leads p ⟨q, marks⟩) p [.expr e] [] := by
    intro w hw
    rw [List.append_nil]
    show (Expr.cats [e]).Leads p w
    exact Expr.leads_cats.mpr hw
  have hsound := preserves_advance e preserves_finish [] .empty hbound
    (sound_empty _ p)
  have hrun : ∀ m ∈ e.matchAt p.before p.pos p.rest,
      m.IsGood (fun q marks => e.Leads p ⟨q, marks⟩) p.pos := by
    refine exists_of_run (fun m hm => ?_) fun t ht => hsound.threads t (List.mem_reverse.mp ht)
    obtain ⟨marks, hdone, rfl⟩ := Option.map_eq_some_iff.mp hm
    exact ⟨p, hsound.done marks hdone, rfl, rfl⟩
  obtain ⟨q, hleads, hstart, hstop⟩ := hrun m h
  exact ⟨⟨q, m.marks⟩, hleads, by rw [Match.ofWay, ← hstart, ← hstop]⟩

/-- **Soundness of the search.** What is found in a text begins at one of its places and ends where
the expression leads from there. -/
theorem leads_of_search {e : Expr} {text : List Char} {m : Match} (h : e.search text = some m) :
    ∃ p ∈ Place.onward none 0 text, ∃ w, e.Leads p w ∧ m = .ofWay p.pos w := by
  have hfrom (before : Option Char) (pos : Nat) (rest : List Char)
      (h : e.searchFrom before pos rest = some m) :
      ∃ p ∈ Place.onward before pos rest, ∃ w, e.Leads p w ∧ m = .ofWay p.pos w := by
    induction rest generalizing before pos with
    | nil =>
      rw [Expr.searchFrom, Option.orElse_eq_orElse, Option.orElse_eq_or, Option.or_none] at h
      exact ⟨⟨before, pos, []⟩, List.mem_singleton_self _, leads_of_matchAt h⟩
    | cons c rest ih =>
      rw [Expr.searchFrom, Option.orElse_eq_orElse, Option.orElse_eq_or,
        Option.or_eq_some_iff] at h
      rcases h with h | ⟨-, h⟩
      · exact ⟨⟨before, pos, c :: rest⟩, List.mem_cons_self, leads_of_matchAt h⟩
      · obtain ⟨p, hp, hleads⟩ := ih (some c) (pos + 1) h
        exact ⟨p, List.mem_cons_of_mem _ hp, hleads⟩
  exact hfrom none 0 text h

end PathRouter.Regex
