import PathRouter.Proofs.Regex.LeftmostFirst

/-!
# Parentheses change nothing in a search

A group without a name remembers nothing, so an expression with such groups put into some of its
named groups (`Expr.parenthesize`) is searched for in the same way: `search_parenthesize` holds of
all expressions, steady or not.

The two searches go in lockstep. What the one has seen the other has, with the groups put in, and
because putting them in is injective (`Expr.parenthesize_injective`) neither drops a thread that the
other keeps. Only where a group has been put in does the second search enter goals for which there
are none in the first.

* `Alike` is the relation between the two frontiers, and `Keeps` says of two `Advance`s that they
  lead from alike to alike.
* `alike_advance` and `keeps_resume` are the step, by induction on the expression and on the goals;
  `run_eq_of_alike` is the run over the rest of the text.
-/

namespace PathRouter.Regex

/-! ## Putting groups in -/

namespace Expr

/-- The expression with one group more, which has no name, around all that each of the groups
`names` holds. -/
def parenthesize (names : List String) : Expr → Expr
  | empty => empty
  | chars s => chars s
  | look l => look l
  | cat a b => cat (a.parenthesize names) (b.parenthesize names)
  | alt a b => alt (a.parenthesize names) (b.parenthesize names)
  | rep min extra greedy e => rep min extra greedy (e.parenthesize names)
  | group none e => group none (e.parenthesize names)
  | group (some name) e =>
    group (some name)
      (if name ∈ names then group none (e.parenthesize names) else e.parenthesize names)

variable {names : List String}

theorem parenthesize_named (name : String) (e : Expr) :
    (group (some name) e).parenthesize names = group (some name)
      (if name ∈ names then group none (e.parenthesize names) else e.parenthesize names) := rfl

theorem isNullable_parenthesize (e : Expr) : (e.parenthesize names).isNullable = e.isNullable := by
  fun_induction parenthesize names e with
  | case8 name e ih =>
    rw [isNullable, isNullable, ← ih]
    split <;> rfl
  | _ => simp_all [isNullable]

theorem mem_groups_parenthesize (e : Expr) (name : String) :
    some name ∈ (e.parenthesize names).groups ↔ some name ∈ e.groups := by
  fun_induction parenthesize names e with
  | case8 own e ih =>
    rw [groups, groups, List.mem_cons, List.mem_cons, ← ih]
    split <;> simp [groups]
  | _ => simp_all [groups]

theorem parenthesize_cats (es : List Expr) :
    (cats es).parenthesize names = cats (es.map (parenthesize names)) := by
  induction es with
  | nil => rfl
  | cons e es ih =>
    cases es with
    | nil => rfl
    | cons e' es =>
      show cat _ ((cats (e' :: es)).parenthesize names) = _
      rw [ih]
      rfl

/-- Where none of the groups is there is nothing to put one in. -/
theorem parenthesize_eq_self {e : Expr} (h : ∀ name ∈ names, some name ∉ e.groups) :
    e.parenthesize names = e := by
  fun_induction parenthesize names e with
  | case1 | case2 | case3 => rfl
  | case4 a b iha ihb | case5 a b iha ihb =>
    simp only [groups, List.mem_append, not_or] at h
    rw [iha fun name hname => (h name hname).1, ihb fun name hname => (h name hname).2]
  | case6 min extra greedy e ih => rw [ih h]
  | case7 e ih => rw [ih fun name hname hmem => h name hname (List.mem_cons_of_mem _ hmem)]
  | case8 name e ih =>
    rw [if_neg fun hname => h name hname List.mem_cons_self,
      ih fun name hname hmem => h name hname (List.mem_cons_of_mem _ hmem)]

theorem parenthesize_injective : Function.Injective (parenthesize names) := by
  intro e e' h
  induction e generalizing e' with
  | empty | chars _ | look _ =>
    cases e' with
    | group name e' => cases name <;> cases h
    | _ => simp_all [parenthesize]
  | cat a b iha ihb =>
    cases e' with
    | cat a' b' =>
      simp only [parenthesize, cat.injEq] at h
      rw [iha h.1, ihb h.2]
    | group name e' => cases name <;> cases h
    | _ => cases h
  | alt a b iha ihb =>
    cases e' with
    | alt a' b' =>
      simp only [parenthesize, alt.injEq] at h
      rw [iha h.1, ihb h.2]
    | group name e' => cases name <;> cases h
    | _ => cases h
  | rep min extra greedy e ih =>
    cases e' with
    | rep min' extra' greedy' e' =>
      simp only [parenthesize, rep.injEq] at h
      obtain ⟨rfl, rfl, rfl, h⟩ := h
      rw [ih h]
    | group name e' => cases name <;> cases h
    | _ => cases h
  | group name e ih =>
    cases e' with
    | group name' e' =>
      cases name with
      | none =>
        cases name' with
        | none => rw [ih (group.inj h).2]
        | some name' => cases h
      | some name =>
        cases name' with
        | none => cases h
        | some name' =>
          rw [parenthesize_named, parenthesize_named] at h
          obtain ⟨hname, hinner⟩ := group.inj h
          obtain rfl := Option.some.inj hname
          split at hinner
          · rw [ih (group.inj hinner).2]
          · rw [ih hinner]
    | _ => cases name <;> cases h

end Expr

/-- The goal with such groups put in. -/
def Goal.parenthesize (names : List String) : Goal → Goal
  | expr e => expr (e.parenthesize names)
  | close name => close name
  | round e greedy => round (e.parenthesize names) greedy

theorem Goal.parenthesize_injective (names : List String) :
    Function.Injective (Goal.parenthesize names) := by
  intro goal goal' h
  cases goal <;> cases goal' <;> simp_all [parenthesize, Expr.parenthesize_injective.eq_iff]

/-- Some goals with such groups put in. -/
def parenthesizeGoals (names : List String) (goals : List Goal) : List Goal :=
  goals.map (Goal.parenthesize names)

theorem parenthesizeGoals_inj {names : List String} {goals goals' : List Goal} :
    parenthesizeGoals names goals = parenthesizeGoals names goals' ↔ goals = goals' :=
  (List.map_injective_iff.mpr (Goal.parenthesize_injective names)).eq_iff

/-- A thread that waits with such groups put in. -/
def Thread.parenthesize (names : List String) (t : Thread) : Thread :=
  { t with goals := parenthesizeGoals names t.goals }

/-! ## Frontiers that are alike -/

/-- To enter `goals` would change nothing: they have been met, or, if they begin with a group that
has no name, what it holds has. That may also be `pending`, which is about to be met. -/
def IsMet (seen : List (List Goal)) (pending : List Goal) : List Goal → Prop
  | .expr (.group none e) :: goals => .expr e :: goals ∈ seen ∨ .expr e :: goals = pending
  | goals => goals ∈ seen

/-- Nothing tells the frontiers apart but the groups that are put in. Of the goals that have been
met this is so up to `pending`, and once a thread is done they do not count. -/
structure Alike (names : List String) (pending : List Goal) (f f' : Frontier) : Prop where
  done : f'.done = f.done
  threads : f'.threads = f.threads.map (Thread.parenthesize names)
  seen : ∀ goals ∈ f.seen, parenthesizeGoals names goals ∈ f'.seen
  met : f.done = none → ∀ goals, parenthesizeGoals names goals ∈ f'.seen →
    IsMet f.seen pending goals

/-- From frontiers that are alike the two lead to such that are alike. -/
def Keeps (names : List String) (next next' : Advance) : Prop :=
  ∀ marks f f', Alike names [] f f' → Alike names [] (next marks f) (next' marks f')

theorem Frontier.enter_of_met {goals : List Goal} {next : Advance} {marks : List Mark}
    {f : Frontier} (h : f.done.isSome ∨ goals ∈ f.seen) : enter goals next marks f = f := if_pos h

theorem Frontier.enter_of_new {goals : List Goal} {next : Advance} {marks : List Mark}
    {f : Frontier} (hdone : f.done = none) (hnew : goals ∉ f.seen) :
    enter goals next marks f = next marks { f with seen := goals :: f.seen } :=
  if_neg (by simp [hdone, hnew])

variable {names : List String}

/-- What has been met stays so, and `pending` need not be pending any more once it has been met. -/
theorem IsMet.mono {seen seen' : List (List Goal)} {pending goals : List Goal}
    (h : IsMet seen pending goals) (hseen : ∀ goals ∈ seen, goals ∈ seen') {pending' : List Goal}
    (hpending : pending ∈ seen' ∨ pending = pending') : IsMet seen' pending' goals := by
  unfold IsMet at h ⊢
  split at h
  · rcases h with h | rfl
    · exact .inl (hseen _ h)
    · exact hpending
  · exact hseen _ h

namespace Alike

variable {pending goals : List Goal} {f f' : Frontier}

/-- Nothing need be pending where it has been met, or where it does not count. -/
theorem settle (h : Alike names pending f f') (hpending : f.done.isSome ∨ pending ∈ f.seen) :
    Alike names [] f f' where
  done := h.done
  threads := h.threads
  seen := h.seen
  met := fun hdone goals hgoals => by
    rcases hpending with hsome | hmem
    · rw [hdone] at hsome
      cases hsome
    · exact (h.met hdone goals hgoals).mono (fun _ hmem => hmem) (.inl hmem)

theorem weaken (h : Alike names [] f f') (pending : List Goal) : Alike names pending f f' where
  done := h.done
  threads := h.threads
  seen := h.seen
  met := fun hdone goals hgoals => by
    have hmet := h.met hdone goals hgoals
    unfold IsMet at hmet ⊢
    split at hmet
    · exact hmet.imp_right fun hnil => nomatch hnil
    · exact hmet

/-- Both enter the same goals. -/
theorem enter (h : Alike names pending f f') {pending' : List Goal}
    (hpending : pending = goals ∨ pending = pending')
    (hgoals : IsMet (goals :: f.seen) pending' goals) :
    Alike names pending' { f with seen := goals :: f.seen }
      { f' with seen := parenthesizeGoals names goals :: f'.seen } where
  done := h.done
  threads := h.threads
  seen := fun goals' hmem => by
    rcases List.mem_cons.mp hmem with rfl | hmem
    · exact List.mem_cons_self
    · exact List.mem_cons_of_mem _ (h.seen goals' hmem)
  met := fun hdone goals' hmem => by
    rcases List.mem_cons.mp hmem with heq | hmem
    · rw [parenthesizeGoals_inj.mp heq]
      exact hgoals
    · refine (h.met hdone goals' hmem).mono (fun _ => List.mem_cons_of_mem _) ?_
      rcases hpending with rfl | hpending
      · exact .inl List.mem_cons_self
      · exact .inr hpending

end Alike

/-! ## Entering goals -/

section Enter

variable {f f' : Frontier} {next next' : Advance} {marks : List Mark} (goals : List Goal)

/-- Goals that begin with no unnamed group are met by both or by none. -/
theorem alike_enter (hgoals : ∀ e rest, goals ≠ .expr (.group none e) :: rest)
    (hnext : Keeps names next next') (h : Alike names goals f f') :
    Alike names [] (Frontier.enter goals next marks f)
      (Frontier.enter (parenthesizeGoals names goals) next' marks f') := by
  have hplain {seen : List (List Goal)} {pending : List Goal} :
      IsMet seen pending goals ↔ goals ∈ seen := by
    unfold IsMet
    split
    · next e rest => exact absurd rfl (hgoals e rest)
    · exact Iff.rfl
  by_cases hmet : f.done.isSome ∨ goals ∈ f.seen
  · have hmet' : f'.done.isSome ∨ parenthesizeGoals names goals ∈ f'.seen :=
      hmet.imp (fun hdone => h.done ▸ hdone) (h.seen goals)
    rw [Frontier.enter_of_met hmet, Frontier.enter_of_met hmet']
    exact h.settle hmet
  · rw [not_or, Option.not_isSome_iff_eq_none] at hmet
    obtain ⟨hdone, hnew⟩ := hmet
    have hnew' : parenthesizeGoals names goals ∉ f'.seen :=
      fun hmem => hnew (hplain.mp (h.met hdone goals hmem))
    rw [Frontier.enter_of_new hdone hnew, Frontier.enter_of_new (h.done.trans hdone) hnew']
    exact hnext marks _ _ (h.enter (.inl rfl) (hplain.mpr List.mem_cons_self))

theorem Keeps.enter (hgoals : ∀ e rest, goals ≠ .expr (.group none e) :: rest)
    (hnext : Keeps names next next') :
    Keeps names (Frontier.enter goals next)
      (Frontier.enter (parenthesizeGoals names goals) next') :=
  fun _ _ _ h => alike_enter goals hgoals hnext (h.weaken goals)

variable {goals} {around : Around} {pos : Nat} {e : Expr}

theorem Expr.advance_of_seen (h : .expr e :: goals ∈ f.seen) :
    e.advance around pos goals next marks f = f := by
  unfold Expr.advance
  exact Frontier.enter_of_met (.inr h)

theorem Expr.advance_of_done (h : f.done.isSome) :
    e.advance around pos goals next marks f = f := by
  unfold Expr.advance
  exact Frontier.enter_of_met (.inl h)

theorem Expr.advance_unnamed (e : Expr) (goals : List Goal) (next : Advance) :
    (Expr.group none e).advance around pos goals next =
      Frontier.enter (.expr (.group none e) :: goals) (e.advance around pos goals next) := by
  rw [Expr.advance]

/-- What a group holds is not the group. -/
theorem ne_group_none (e : Expr) : e ≠ .group none e := by
  intro h
  have hsize := congrArg sizeOf h
  simp only [Expr.group.sizeOf_spec] at hsize
  omega

variable (goals) (hinner : ∀ f f', Alike names (.expr e :: goals) f f' →
  Alike names [] (e.advance around pos goals next marks f)
    ((e.parenthesize names).advance around pos (parenthesizeGoals names goals) next' marks f'))

include hinner

/-- An unnamed group that is there in both. One that has been put in may have been met in its place,
but then what it holds has been met, too. -/
theorem alike_unnamed (h : Alike names (.expr (.group none e) :: goals) f f') :
    Alike names [] ((Expr.group none e).advance around pos goals next marks f)
      ((Expr.group none (e.parenthesize names)).advance around pos (parenthesizeGoals names goals)
        next' marks f') := by
  let group : List Goal := .expr (.group none e) :: goals
  rw [Expr.advance_unnamed, Expr.advance_unnamed]
  show Alike names [] (Frontier.enter group _ marks f)
    (Frontier.enter (parenthesizeGoals names group) _ marks f')
  by_cases hmet : f.done.isSome ∨ group ∈ f.seen
  · have hmet' : f'.done.isSome ∨ parenthesizeGoals names group ∈ f'.seen :=
      hmet.imp (fun hdone => h.done ▸ hdone) (h.seen group)
    rw [Frontier.enter_of_met hmet, Frontier.enter_of_met hmet']
    exact h.settle hmet
  · rw [not_or, Option.not_isSome_iff_eq_none] at hmet
    obtain ⟨hdone, hnew⟩ := hmet
    rw [Frontier.enter_of_new hdone hnew]
    by_cases hmem : parenthesizeGoals names group ∈ f'.seen
    · rw [Frontier.enter_of_met (.inr hmem)]
      have hheld : .expr e :: goals ∈ f.seen := by
        refine (h.met hdone group hmem).resolve_right fun heq => ?_
        exact ne_group_none e (Goal.expr.inj (List.cons.inj heq).1)
      rw [Expr.advance_of_seen (List.mem_cons_of_mem _ hheld)]
      refine ⟨h.done, h.threads, ?_, fun hdone goals' hgoals' => ?_⟩
      · exact List.forall_mem_cons.mpr ⟨hmem, h.seen⟩
      · exact (h.met hdone goals' hgoals').mono (fun _ => List.mem_cons_of_mem _)
          (.inl List.mem_cons_self)
    · rw [Frontier.enter_of_new (h.done.trans hdone) hmem]
      exact hinner _ _ (h.enter (.inl rfl) (.inr rfl))

/-- An unnamed group that is put in. -/
theorem alike_putIn (h : Alike names [] f f') :
    Alike names [] (e.advance around pos goals next marks f)
      ((Expr.group none (e.parenthesize names)).advance around pos (parenthesizeGoals names goals)
        next' marks f') := by
  let group : List Goal := .expr (.group none e) :: goals
  rw [Expr.advance_unnamed]
  show Alike names [] _ (Frontier.enter (parenthesizeGoals names group) _ marks f')
  cases hdone : f.done with
  | some marks' =>
    have hsome : f.done.isSome := by rw [hdone]; rfl
    rw [Expr.advance_of_done hsome, Frontier.enter_of_met (.inl (h.done ▸ hsome))]
    exact h
  | none =>
    by_cases hmem : parenthesizeGoals names group ∈ f'.seen
    · have hheld : .expr e :: goals ∈ f.seen :=
        (h.met hdone group hmem).resolve_right fun hnil => nomatch hnil
      rw [Expr.advance_of_seen hheld, Frontier.enter_of_met (.inr hmem)]
      exact h
    · rw [Frontier.enter_of_new (h.done.trans hdone) hmem]
      refine hinner _ _ ⟨h.done, h.threads, fun goals' hgoals' => ?_, fun _ goals' hgoals' => ?_⟩
      · exact List.mem_cons_of_mem _ (h.seen goals' hgoals')
      · rcases List.mem_cons.mp hgoals' with heq | hgoals'
        · rw [parenthesizeGoals_inj.mp heq]
          exact .inr rfl
        · exact ((h.weaken _).met hdone goals' hgoals')

end Enter

/-! ## The leaves of the search -/

theorem keeps_stay : Keeps names Frontier.stay Frontier.stay := fun _ _ _ h => h

theorem keeps_finish : Keeps names Frontier.finish Frontier.finish := by
  intro marks f f' h
  unfold Frontier.finish
  rw [h.done]
  split
  · exact h
  · exact ⟨rfl, h.threads, h.seen, fun hdone => nomatch hdone⟩

theorem keeps_wait (set : CharSet) (goals : List Goal) :
    Keeps names (Frontier.wait set goals) (Frontier.wait set (parenthesizeGoals names goals)) := by
  intro marks f f' h
  unfold Frontier.wait
  rw [h.done]
  split
  · exact h
  · exact ⟨rfl, congrArg (_ :: ·) h.threads, h.seen, h.met⟩

theorem Keeps.choose {more more' less less' : Advance} (hmore : Keeps names more more')
    (hless : Keeps names less less') (greedy : Bool) :
    Keeps names (Regex.choose greedy more less) (Regex.choose greedy more' less') := by
  intro marks f f' h
  unfold Regex.choose
  split
  · exact hless marks _ _ (hmore marks f f' h)
  · exact hmore marks _ _ (hless marks f f' h)

/-! ## Repetition -/

section Repetition

variable {e : Expr} {greedy : Bool} {body body' : List Goal → Advance → Advance}
variable {goals : List Goal} {next next' : Advance}
variable (hbody : ∀ goals next next', Keeps names next next' →
  Keeps names (body goals next) (body' (parenthesizeGoals names goals) next'))

include hbody

theorem keeps_rounds (hnext : Keeps names next next') :
    Keeps names (rounds e greedy body goals next)
      (rounds (e.parenthesize names) greedy body' (parenthesizeGoals names goals) next') :=
  hbody (.round e greedy :: goals) _ _
    (hnext.enter (.round e greedy :: goals) fun _ _ heq => nomatch heq)

theorem keeps_anyRounds (hnext : Keeps names next next') :
    Keeps names (anyRounds e greedy body goals next)
      (anyRounds (e.parenthesize names) greedy body' (parenthesizeGoals names goals) next') := by
  unfold anyRounds
  rw [Expr.isNullable_parenthesize]
  refine Keeps.choose ?_ hnext greedy
  split
  · exact keeps_rounds hbody hnext
  · exact hbody (.expr (.rep 0 none greedy e) :: goals) _ _ keeps_stay

theorem keeps_upTo (hnext : Keeps names next next') (n : Nat) :
    Keeps names (upTo e greedy body n goals next)
      (upTo (e.parenthesize names) greedy body' n (parenthesizeGoals names goals) next') := by
  induction n with
  | zero => exact hnext
  | succ n ih =>
    exact (hbody (.expr (.rep 0 (some n) greedy e) :: goals) _ _
      (ih.enter (.expr (.rep 0 (some n) greedy e) :: goals)
        fun _ _ heq => nomatch heq)).choose hnext greedy

theorem keeps_repeatRounds (hnext : Keeps names next next') (min : Nat) (extra : Option Nat) :
    Keeps names (repeatRounds e greedy body min extra goals next)
      (repeatRounds (e.parenthesize names) greedy body' min extra (parenthesizeGoals names goals)
        next') := by
  fun_induction repeatRounds e greedy body min extra goals next with
  | case1 => exact keeps_anyRounds hbody hnext
  | case2 => exact keeps_upTo hbody hnext _
  | case3 goals next => exact keeps_rounds hbody hnext
  | case4 min extra goals next hnot goals' ih =>
    rw [repeatRounds]
    · exact hbody _ _ _ ((ih hnext).enter (.expr (.rep min extra greedy e) :: goals)
        fun _ _ heq => nomatch heq)
    · exact hnot

end Repetition

/-! ## The step -/

/-- **The step on an expression.** -/
theorem alike_advance (around : Around) (pos : Nat) (e : Expr) (goals : List Goal)
    {next next' : Advance} (hnext : Keeps names next next') {marks : List Mark} {f f' : Frontier}
    (h : Alike names (.expr e :: goals) f f') :
    Alike names [] (e.advance around pos goals next marks f)
      ((e.parenthesize names).advance around pos (parenthesizeGoals names goals) next' marks
        f') := by
  induction e generalizing goals next next' marks f f' with
  | empty =>
    exact alike_enter _ (fun _ _ heq => nomatch heq) hnext h
  | chars s =>
    exact alike_enter _ (fun _ _ heq => nomatch heq) (keeps_wait s goals) h
  | look l =>
    refine alike_enter (.expr (.look l) :: goals) (fun _ _ heq => nomatch heq) ?_ h
    intro marks f f' h
    dsimp only
    split
    · exact hnext marks f f' h
    · exact h
  | cat a b iha ihb =>
    have hrest : Keeps names (fun marks f => b.advance around pos goals next marks f)
        (fun marks f => (b.parenthesize names).advance around pos (parenthesizeGoals names goals)
          next' marks f) :=
      fun marks f f' h => ihb goals hnext (h.weaken _)
    exact alike_enter (.expr (.cat a b) :: goals) (fun _ _ heq => nomatch heq)
      (fun marks f f' h => iha (.expr b :: goals) hrest (h.weaken _)) h
  | alt a b iha ihb =>
    refine alike_enter (.expr (.alt a b) :: goals) (fun _ _ heq => nomatch heq) ?_ h
    intro marks f f' h
    exact ihb goals hnext ((iha goals hnext (h.weaken _)).weaken _)
  | rep min extra greedy e ih =>
    exact alike_enter (.expr (.rep min extra greedy e) :: goals) (fun _ _ heq => nomatch heq)
      (keeps_repeatRounds (fun _ _ _ hnext _ _ _ h => ih _ hnext (h.weaken _)) hnext min extra) h
  | group name e ih =>
    cases name with
    | none => exact alike_unnamed goals (fun _ _ => ih goals hnext) h
    | some name =>
      refine alike_enter (.expr (.group (some name) e) :: goals) (fun _ _ heq => nomatch heq) ?_ h
      intro marks f f' h
      have hclose : Keeps names (fun marks f => next (.closed name pos :: marks) f)
          (fun marks f => next' (.closed name pos :: marks) f) :=
        fun marks f f' h => hnext _ f f' h
      dsimp only
      split
      · exact alike_putIn (.close name :: goals) (fun _ _ => ih _ hclose) h
      · exact ih (.close name :: goals) hclose (h.weaken _)

/-- **The step on goals.** -/
theorem keeps_resume (around : Around) (pos : Nat) (goals : List Goal) :
    Keeps names (resume around pos goals) (resume around pos (parenthesizeGoals names goals)) := by
  induction goals with
  | nil => exact keeps_finish
  | cons goal goals ih =>
    cases goal with
    | expr e => exact fun marks f f' h => alike_advance around pos e goals ih (h.weaken _)
    | close name => exact fun marks f f' h => ih _ f f' h
    | round e greedy =>
      refine Keeps.enter (.round e greedy :: goals) (fun _ _ heq => nomatch heq) ?_
      exact (keeps_rounds
        (fun goals _ _ hnext _ _ _ h => alike_advance around pos e goals hnext (h.weaken _))
        ih).choose ih greedy

/-! ## The run -/

theorem alike_empty : Alike names [] .empty .empty where
  done := rfl
  threads := rfl
  seen := fun _ hgoals => nomatch hgoals
  met := fun _ _ hgoals => nomatch hgoals

theorem alike_move (names : List String) (c : Char) (around : Around) (pos : Nat)
    (threads : List Thread) :
    Alike names [] (move c around pos threads)
      (move c around pos (threads.map (Thread.parenthesize names))) := by
  have hfold (f f' : Frontier) (h : Alike names [] f f') :
      Alike names []
        (threads.foldl (fun f t =>
          if t.set.contains c then resume around pos t.goals t.marks f else f) f)
        ((threads.map (Thread.parenthesize names)).foldl (fun f t =>
          if t.set.contains c then resume around pos t.goals t.marks f else f) f') := by
    induction threads generalizing f f' with
    | nil => exact h
    | cons t threads ih =>
      refine ih _ _ ?_
      -- the same threads take the character
      show Alike names [] (if t.set.contains c then _ else _) (if t.set.contains c then _ else _)
      split
      · exact keeps_resume around pos t.goals t.marks f f' h
      · exact h
  exact hfold .empty .empty alike_empty

/-- **The run.** -/
theorem run_parenthesize (start : Nat) (best : Option Match) (threads : List Thread) (pos : Nat)
    (rest : List Char) :
    run start best (threads.map (Thread.parenthesize names)) pos rest =
      run start best threads pos rest := by
  induction rest generalizing best threads pos with
  | nil => rfl
  | cons c rest ih =>
    have hmove := alike_move names c ⟨some c, rest.head?⟩ (pos + 1) threads
    rw [run, run, List.isEmpty_map]
    dsimp only
    rw [hmove.done, hmove.threads, ← List.map_reverse, ih]

theorem matchAt_parenthesize (e : Expr) (before : Option Char) (pos : Nat) (rest : List Char) :
    (e.parenthesize names).matchAt before pos rest = e.matchAt before pos rest := by
  have hadvance : Alike names [] _
      ((e.parenthesize names).advance ⟨before, rest.head?⟩ pos [] Frontier.finish [] .empty) :=
    alike_advance ⟨before, rest.head?⟩ pos e [] keeps_finish (alike_empty.weaken _)
  rw [Expr.matchAt, Expr.matchAt]
  rw [hadvance.done, hadvance.threads, ← List.map_reverse, run_parenthesize]

/-- **Groups without a name change nothing in a search**, wherever they are put into named ones. -/
theorem search_parenthesize (names : List String) (e : Expr) (text : List Char) :
    (e.parenthesize names).search text = e.search text := by
  have hfrom (before : Option Char) (pos : Nat) (rest : List Char) :
      (e.parenthesize names).searchFrom before pos rest = e.searchFrom before pos rest := by
    induction rest generalizing before pos with
    | nil => rw [Expr.searchFrom, Expr.searchFrom, matchAt_parenthesize]
    | cons c rest ih => rw [Expr.searchFrom, Expr.searchFrom, matchAt_parenthesize, ih]
  exact hfrom none 0 text

end PathRouter.Regex
