import PathRouter.Proofs.Regex.Ways

/-!
# The search finds the leftmost preferred way

The search moves a list of threads over the text and drops every thread whose goals it has met
before at the same position. For a steady expression this loses nothing: what it finds is the first
way from the first place that has any (`search_eq_findSome?`).

* `rank` bounds what can still be done with some goals without taking up a character. Every step of
  the search within a position leads to goals of a lower rank, so that no thread meets its own goals
  again.
* `Settled` is the invariant of a frontier: if goals below the given rank have been met and have a
  way, then the frontier has one, too. This is why a thread that is dropped cannot win.
* `Explored` says what a step adds to a frontier: the ways that it explores, behind those that were
  there. `Follows` says it of an `Advance`, from whatever frontier it starts.
* `follows_advance` and `follows_resume` are the step, by induction on the expression and on the
  goals; `run_eq` is the run over the rest of the text.
-/

namespace PathRouter.Regex

/-! ## Rank -/

/-- How many steps an expression may take without taking up a character. -/
def Expr.size : Expr → Nat
  | empty | chars _ | look _ => 1
  | cat a b | alt a b => a.size + b.size + 1
  | rep min extra _ e => (min + extra.getD 0 + 1) * (e.size + 1)
  | group _ e => e.size + 2

/-- How many steps some goals may take without taking up a character. Behind an expression that
takes one up nothing counts. -/
def rank : List Goal → Nat
  | [] => 0
  | .expr e :: goals => e.size + if e.isNullable then rank goals else 0
  | .close _ :: goals => rank goals + 1
  | .round e _ :: goals => e.size + 1 + rank goals

theorem Expr.size_pos (e : Expr) : 0 < e.size := by
  cases e with
  | rep min extra greedy e => exact Nat.mul_pos (by omega) (by omega)
  | _ => simp only [size]; omega

theorem rank_expr_pos (e : Expr) (goals : List Goal) : 0 < rank (.expr e :: goals) := by
  rw [rank]
  exact Nat.add_pos_left e.size_pos _

theorem rank_group (name : Option String) (e : Expr) (goals : List Goal) :
    rank (.expr (.group name e) :: goals) = rank (.expr e :: goals) + 2 := by
  rw [rank, rank, Expr.size, Nat.add_right_comm]
  rfl

/-- A round less is a smaller repetition, with room for the round. -/
theorem Expr.size_rep_succ (min : Nat) (extra : Option Nat) (greedy : Bool) (e : Expr) :
    (rep (min + 1) extra greedy e).size = (rep min extra greedy e).size + (e.size + 1) := by
  simp only [size]
  rw [show min + 1 + extra.getD 0 + 1 = (min + extra.getD 0 + 1) + 1 by omega, Nat.succ_mul]

theorem Expr.size_rep_some_succ (n : Nat) (greedy : Bool) (e : Expr) :
    (rep 0 (some (n + 1)) greedy e).size = (rep 0 (some n) greedy e).size + (e.size + 1) := by
  simp only [size, Option.getD_some]
  rw [show 0 + (n + 1) + 1 = (0 + n + 1) + 1 by omega, Nat.succ_mul]

/-! ## What a frontier holds -/

/-- The ways of a thread, over the next character and then on to its goals. -/
def Thread.ways (p : Place) (t : Thread) : List Way :=
  (goalsWays (.expr (.chars t.set) :: t.goals) p).map (·.behind t.marks)

namespace Frontier

/-- The ways of a frontier: those of its threads, and then the one that is done. -/
def ways (p : Place) (f : Frontier) : List Way :=
  f.threads.reverse.flatMap (Thread.ways p) ++ (f.done.map fun marks => ⟨p, marks⟩).toList

/-- The way that wins. -/
def best (p : Place) (f : Frontier) : Option Way := (f.ways p).head?

theorem isSome_best_of_done {p : Place} {f : Frontier} (h : f.done.isSome) :
    (f.best p).isSome := by
  obtain ⟨marks, hmarks⟩ := Option.isSome_iff_exists.mp h
  simp [best, ways, hmarks]

end Frontier

/-- Goals that have been met, have a way and are of rank `n` at most have left a way in the
frontier. -/
def Settled (p : Place) (n : Nat) (f : Frontier) : Prop :=
  ∀ goals ∈ f.seen, rank goals ≤ n → goalsWays goals p ≠ [] → (f.best p).isSome

/-- From the frontier `f` the ways `ways` have been explored, which has led to `f'`. -/
structure Explored (p : Place) (n : Nat) (ways : List Way) (f f' : Frontier) : Prop where
  settled : Settled p n f'
  /-- All goals that have been met on the way are of rank `n` at most. -/
  seen : ∀ goals ∈ f'.seen, goals ∈ f.seen ∨ rank goals ≤ n
  /-- All threads that have come up are steady. -/
  steady : ∀ t ∈ f'.threads, t ∈ f.threads ∨ ∀ goal ∈ t.goals, goal.isSteady
  best : f'.best p = (f.best p).or ways.head?

/-- From every settled frontier, `next` explores `ways`. -/
def Follows (p : Place) (n : Nat) (ways : List Way) (next : Advance) : Prop :=
  ∀ marks f, Settled p n f → Explored p n (ways.map (·.behind marks)) f (next marks f)

namespace Explored

variable {p : Place} {m n : Nat} {ways ways' : List Way} {f f' f'' : Frontier}

/-- A way that was there stays there. -/
theorem isSome_best (h : Explored p n ways f f') (hf : (f.best p).isSome) :
    (f'.best p).isSome := by
  rw [h.best]
  simp [hf]

theorem trans (h : Explored p n ways f f') (h' : Explored p n ways' f' f'') :
    Explored p n (ways ++ ways') f f'' where
  settled := h'.settled
  seen := fun goals hmem => by
    rcases h'.seen goals hmem with hmem | hrank
    · exact h.seen goals hmem
    · exact .inr hrank
  steady := fun t hmem => by
    rcases h'.steady t hmem with hmem | hsteady
    · exact h.steady t hmem
    · exact .inr hsteady
  best := by rw [h'.best, h.best, List.head?_append, Option.or_assoc]

/-- Behind an empty frontier all threads are steady. -/
theorem steady_reverse (h : Explored p n ways .empty f) :
    ∀ t ∈ f.threads.reverse, ∀ goal ∈ t.goals, goal.isSteady := fun t ht =>
  (h.steady t (List.mem_reverse.mp ht)).resolve_left List.not_mem_nil

/-- A frontier that need not change. -/
theorem refl (hf : Settled p n f) (hways : ways ≠ [] → (f.best p).isSome) :
    Explored p n ways f f where
  settled := hf
  seen := fun goals hmem => .inl hmem
  steady := fun t hmem => .inl hmem
  best := by
    cases hbest : f.best p with
    | some way => rfl
    | none =>
      cases ways with
      | nil => rfl
      | cons way rest => simp [hbest] at hways

end Explored

namespace Follows

variable {p : Place} {m n : Nat} {ways ways' : List Way} {next next' : Advance}

/-- What holds for a rank holds for the greater ones: what has been met before is settled still. -/
theorem mono (h : Follows p m ways next) (hmn : m ≤ n) : Follows p n ways next := by
  intro marks f hf
  -- goals of a rank between `m` and `n` have been met before, and their way is still there
  have hexp := h marks f fun goals hmem hrank => hf goals hmem (Nat.le_trans hrank hmn)
  refine ⟨?_, ?_, hexp.steady, hexp.best⟩
  · intro goals hmem hrank hways
    rcases hexp.seen goals hmem with hseen | hlow
    · exact hexp.isSome_best (hf goals hseen hrank hways)
    · exact hexp.settled goals hmem hlow hways
  · intro goals hmem
    exact (hexp.seen goals hmem).imp_right fun hlow => Nat.le_trans hlow hmn

theorem seq (h : Follows p n ways next) (h' : Follows p n ways' next') :
    Follows p n (ways ++ ways') fun marks f => next' marks (next marks f) := by
  intro marks f hf
  rw [List.map_append]
  have hexp := h marks f hf
  exact hexp.trans (h' marks _ hexp.settled)

/-- Passing a mark first is going on from a way with that mark. -/
theorem mark (h : Follows p n ways next) (m : Mark) :
    Follows p n (ways.map (·.behind [m])) fun marks f => next (m :: marks) f := by
  intro marks f hf
  have hmap : (ways.map (·.behind [m])).map (·.behind marks) =
      ways.map (·.behind (m :: marks)) := by
    simp [Function.comp_def]
  rw [hmap]
  exact h (m :: marks) f hf

theorem choose {greedy : Bool} {more less : Ways} (h : Follows p n (more p) next)
    (h' : Follows p n (less p) next') :
    Follows p n (Ways.choose greedy more less p) (Regex.choose greedy next next') := by
  cases greedy
  · exact h'.seq h
  · exact h.seq h'

end Follows

/-! ## The leaves of the search -/

theorem follows_finish (p : Place) : Follows p 0 (goalsWays [] p) Frontier.finish := by
  intro marks f hf
  unfold Frontier.finish
  split
  · next hdone => exact .refl hf fun _ => Frontier.isSome_best_of_done hdone
  · next hdone =>
    have hnone : f.done = none := by simpa using hdone
    -- a thread that is done is a way, so that every goal is settled
    refine ⟨?_, fun goals hmem => .inl hmem, fun t hmem => .inl hmem, ?_⟩
    · intro goals _ _ _
      exact Frontier.isSome_best_of_done rfl
    · simp [Frontier.best, Frontier.ways, hnone, goalsWays, Ways.stay, Way.behind]

theorem follows_wait (p : Place) (set : CharSet) {goals : List Goal}
    (hgoals : ∀ goal ∈ goals, goal.isSteady) :
    Follows p 0 (goalsWays (.expr (.chars set) :: goals) p) (Frontier.wait set goals) := by
  intro marks f hf
  unfold Frontier.wait
  split
  · next hdone => exact .refl hf fun _ => Frontier.isSome_best_of_done hdone
  · next hdone =>
    have hnone : f.done = none := by simpa using hdone
    have hbest : ({ f with threads := ⟨set, goals, marks⟩ :: f.threads } : Frontier).best p =
        (f.best p).or
          ((goalsWays (.expr (.chars set) :: goals) p).map (·.behind marks)).head? := by
      simp [Frontier.best, Frontier.ways, hnone, Thread.ways]
    refine ⟨?_, fun goals hmem => .inl hmem, ?_, hbest⟩
    · intro goals' hmem hrank hways
      rw [hbest]
      simp [hf goals' hmem hrank hways]
    · intro t hmem
      rcases List.mem_cons.mp hmem with rfl | hmem
      · exact .inr hgoals
      · exact .inl hmem

/-- Entering goals is going on from them: if they have been met before, then a way of theirs is in
the frontier already, before the one that is dropped. -/
theorem follows_enter {p : Place} {m : Nat} {goals : List Goal} {next : Advance}
    (h : Follows p m (goalsWays goals p) next) (hm : m < rank goals) :
    Follows p (rank goals) (goalsWays goals p) (Frontier.enter goals next) := by
  intro marks f hf
  unfold Frontier.enter
  split
  · next hmet =>
    -- the thread is dropped: its goals have been met, and they are settled
    refine .refl hf fun hways => ?_
    rcases hmet with hdone | hmem
    · exact Frontier.isSome_best_of_done hdone
    · exact hf goals hmem (Nat.le_refl _) fun hnone => hways (by rw [hnone, List.map_nil])
  · next hnew =>
    -- below its own rank the frontier is still settled, with these goals among those met
    have hf' : Settled p m { f with seen := goals :: f.seen } := by
      intro goals' hmem hrank hways
      rcases List.mem_cons.mp hmem with rfl | hmem
      · omega
      · exact hf goals' hmem (by omega) hways
    have hexp := h marks _ hf'
    have hbest : (next marks { f with seen := goals :: f.seen }).best p =
        (f.best p).or ((goalsWays goals p).map (·.behind marks)).head? := hexp.best
    refine ⟨?_, ?_, hexp.steady, hbest⟩
    · intro goals' hmem hrank hways
      rcases hexp.seen goals' hmem with hmem' | hlow
      · rcases List.mem_cons.mp hmem' with rfl | hmem'
        · -- the goals entered: their own ways have been explored
          obtain ⟨way, rest, hcons⟩ := List.exists_cons_of_ne_nil hways
          rw [hbest, hcons]
          simp
        · rw [hbest]
          simp [hf goals' hmem' hrank hways]
      · exact hexp.settled goals' hmem hlow hways
    · intro goals' hmem
      rcases hexp.seen goals' hmem with hmem' | hlow
      · rcases List.mem_cons.mp hmem' with rfl | hmem'
        · exact .inr (Nat.le_refl _)
        · exact .inl hmem'
      · exact .inr (by omega)

/-! ## Repetition -/

/-- `body` matches `e` once and goes on with what is given. Where `e` cannot match without taking up
a character, it does not matter what that is. -/
def MatchesOnce (p : Place) (e : Expr) (body : List Goal → Advance → Advance) : Prop :=
  ∀ goals next, (∀ goal ∈ goals, goal.isSteady) →
    (e.isNullable → Follows p (rank goals) (goalsWays goals p) next) →
      Follows p (rank (.expr e :: goals)) (goalsWays (.expr e :: goals) p) (body goals next)

section Repetition

variable {p : Place} {e : Expr} {greedy : Bool} {body : List Goal → Advance → Advance}
variable {goals : List Goal} {next : Advance}

theorem rank_rep_zero (extra : Option Nat) :
    rank (.expr (.rep 0 extra greedy e) :: goals) =
      (Expr.rep 0 extra greedy e).size + rank goals := by
  simp [rank, Expr.isNullable]

theorem follows_upTo (hbody : MatchesOnce p e body) (he : e.isSteady)
    (hgoals : ∀ goal ∈ goals, goal.isSteady)
    (hnext : Follows p (rank goals) (goalsWays goals p) next) (n : Nat) :
    Follows p (rank (.expr (.rep 0 (some n) greedy e) :: goals) - 1)
      (goalsWays (.expr (.rep 0 (some n) greedy e) :: goals) p)
      (upTo e greedy body n goals next) := by
  have hsize := Expr.size_pos (.rep 0 (some n) greedy e)
  rw [rank_rep_zero]
  induction n with
  | zero =>
    simp only [goalsWays, Goal.ways, Expr.ways_rep_zero_some_zero, Ways.stay_andThen, upTo]
    exact hnext.mono (by omega)
  | succ n ih =>
    have hpos := Expr.size_pos (.rep 0 (some n) greedy e)
    have hrest : Follows p (rank (.expr (.rep 0 (some n) greedy e) :: goals))
        (goalsWays (.expr (.rep 0 (some n) greedy e) :: goals) p)
        (Frontier.enter (.expr (.rep 0 (some n) greedy e) :: goals) fun marks f =>
          upTo e greedy body n goals next marks f) :=
      follows_enter (ih hpos) (by rw [rank_rep_zero]; omega)
    -- a round leads to the smaller repetition whether it takes up a character or not
    have hround := hbody (.expr (.rep 0 (some n) greedy e) :: goals) _
      (by simpa [Goal.isSteady, Expr.isSteady, he] using hgoals) (fun _ => hrest)
    have hways : goalsWays (.expr (.rep 0 (some (n + 1)) greedy e) :: goals) =
        .choose greedy (goalsWays (.expr e :: .expr (.rep 0 (some n) greedy e) :: goals))
          (goalsWays goals) := by
      simp only [goalsWays, Goal.ways, Expr.ways_rep_zero_some_succ, Ways.choose_andThen,
        Ways.stay_andThen, Ways.andThen_assoc]
    rw [hways, Expr.size_rep_some_succ]
    refine .choose (hround.mono ?_) (hnext.mono (by omega))
    rw [rank, rank_rep_zero]
    split <;> omega

theorem follows_anyRounds (hbody : MatchesOnce p e body) (he : e.isSteady)
    (hnull : e.isNullable = false) (hgoals : ∀ goal ∈ goals, goal.isSteady)
    (hnext : Follows p (rank goals) (goalsWays goals p) next) :
    Follows p (rank (.expr (.rep 0 none greedy e) :: goals) - 1)
      (goalsWays (.expr (.rep 0 none greedy e) :: goals) p)
      (anyRounds e greedy body goals next) := by
  -- a round always takes up a character, so nothing is to be done behind it at this position
  have hround := hbody (.expr (.rep 0 none greedy e) :: goals) Frontier.stay
    (by simpa [Goal.isSteady, Expr.isSteady, he, hnull] using hgoals)
    (fun hnullable => by rw [hnull] at hnullable; cases hnullable)
  have hways : goalsWays (.expr (.rep 0 none greedy e) :: goals) =
      .choose greedy (goalsWays (.expr e :: .expr (.rep 0 none greedy e) :: goals))
        (goalsWays goals) := by
    rw [goalsWays, Goal.ways, Expr.ways_rep_zero_none greedy hnull, Ways.choose_andThen,
      Ways.stay_andThen, Ways.andThen_assoc]
    rfl
  have hsize : (Expr.rep 0 none greedy e).size = e.size + 1 := by simp [Expr.size]
  rw [hways, rank_rep_zero, hsize]
  simp only [anyRounds, hnull, Bool.false_eq_true, if_false]
  refine .choose (hround.mono ?_) (hnext.mono (by omega))
  simp only [rank, hnull, Bool.false_eq_true, if_false]
  omega

/-- What a repetition does behind its entrance. -/
theorem follows_repeatRounds (hbody : MatchesOnce p e body) (he : e.isSteady)
    {min : Nat} {extra : Option Nat} (hextra : extra = none → e.isNullable = false)
    (hgoals : ∀ goal ∈ goals, goal.isSteady)
    (hnext : (Expr.rep min extra greedy e).isNullable →
      Follows p (rank goals) (goalsWays goals p) next) :
    Follows p (rank (.expr (.rep min extra greedy e) :: goals) - 1)
      (goalsWays (.expr (.rep min extra greedy e) :: goals) p)
      (repeatRounds e greedy body min extra goals next) := by
  fun_induction repeatRounds e greedy body min extra goals next with
  | case1 goals next =>
    exact follows_anyRounds hbody he (hextra rfl) hgoals (hnext (by simp [Expr.isNullable]))
  | case2 n goals next =>
    exact follows_upTo hbody he hgoals (hnext (by simp [Expr.isNullable])) n
  | case3 goals next =>
    have hnull := hextra rfl
    have hround := hbody (.round e greedy :: goals)
      (Frontier.enter (.round e greedy :: goals) next)
      (by simpa [Goal.isSteady, he, hnull] using hgoals)
      (fun hnullable => by rw [hnull] at hnullable; cases hnullable)
    have hways : goalsWays (.expr (.rep 1 none greedy e) :: goals) =
        goalsWays (.expr e :: .round e greedy :: goals) := by
      rw [goalsWays, Goal.ways, Expr.ways_rep_succ, Ways.andThen_assoc]
      rfl
    rw [hways]
    refine hround.mono ?_
    have hsize := Expr.size_rep_succ 0 none greedy e
    simp only [Nat.zero_add] at hsize
    simp [rank, Expr.isNullable, hnull, hsize]
  | case4 min extra goals next hlast goals' ih =>
    have hsteady : (Goal.expr (.rep min extra greedy e)).isSteady := by
      cases extra with
      | none => simp [Goal.isSteady, Expr.isSteady, he, hextra rfl]
      | some n => simpa [Goal.isSteady, Expr.isSteady] using he
    have hround := hbody goals'
      (Frontier.enter goals' fun marks f => repeatRounds e greedy body min extra goals next marks f)
      (by simpa [goals', hsteady] using hgoals)
      (fun hnullable => follows_enter
        (ih hextra hgoals fun _ => hnext (by simp [Expr.isNullable, hnullable]))
        (Nat.sub_lt (rank_expr_pos _ _) Nat.one_pos))
    have hways : goalsWays (.expr (.rep (min + 1) extra greedy e) :: goals) =
        goalsWays (.expr e :: goals') := by
      rw [goalsWays, Goal.ways, Expr.ways_rep_succ, Ways.andThen_assoc]
      rfl
    rw [hways]
    refine hround.mono ?_
    simp only [goals', rank, Expr.size_rep_succ, Expr.isNullable]
    by_cases hnullable : e.isNullable = true
    · simp only [hnullable, Bool.or_true, if_true]
      omega
    · simp only [hnullable, Bool.false_eq_true, if_false]
      omega

end Repetition

/-! ## The step -/

/-- The entrance of an expression takes one step of its rank. -/
theorem follows_enter_expr {p : Place} {e : Expr} {goals : List Goal} {next : Advance}
    (h : Follows p (rank (.expr e :: goals) - 1) (goalsWays (.expr e :: goals) p) next) :
    Follows p (rank (.expr e :: goals)) (goalsWays (.expr e :: goals) p)
      (Frontier.enter (.expr e :: goals) next) :=
  follows_enter h (Nat.sub_lt (rank_expr_pos e goals) Nat.one_pos)

/-- **The step on an expression**: from a place, `Expr.advance` explores the ways of the expression
and of the goals behind it, if `next` does so for those goals. -/
theorem follows_advance (p : Place) {e : Expr} (he : e.isSteady) :
    MatchesOnce p e (e.advance p.around p.pos) := by
  induction e with
  | empty =>
    intro goals next hgoals hnext
    have hways : goalsWays (.expr .empty :: goals) = goalsWays goals := Ways.stay_andThen _
    rw [Expr.advance]
    refine follows_enter_expr ?_
    rw [hways]
    exact (hnext rfl).mono (by simp [rank, Expr.size, Expr.isNullable])
  | chars s =>
    intro goals next hgoals hnext
    rw [Expr.advance]
    exact follows_enter_expr ((follows_wait p s hgoals).mono (Nat.zero_le _))
  | look l =>
    intro goals next hgoals hnext
    rw [Expr.advance]
    refine follows_enter_expr ?_
    by_cases hl : l.holds p.around = true
    · have hways : goalsWays (.expr (.look l) :: goals) p = goalsWays goals p := by
        simp [goalsWays, Goal.ways, Expr.ways, Ways.andThen, hl]
      simp only [hl, if_true, hways]
      exact (hnext rfl).mono (by simp [rank, Expr.size, Expr.isNullable])
    · have hways : goalsWays (.expr (.look l) :: goals) p = [] := by
        simp [goalsWays, Goal.ways, Expr.ways, Ways.andThen, hl]
      simp only [hl, Bool.false_eq_true, if_false, hways]
      exact fun marks f hf => .refl hf (by simp)
  | cat a b iha ihb =>
    intro goals next hgoals hnext
    obtain ⟨ha, hb⟩ := Bool.and_eq_true_iff.mp he
    have hways : goalsWays (.expr (.cat a b) :: goals) =
        goalsWays (.expr a :: .expr b :: goals) := Ways.andThen_assoc _ _ _
    -- `b` is advanced here only where `a` may match without taking up a character
    have hfirst := iha ha (.expr b :: goals) (b.advance p.around p.pos goals next)
      (by simpa [Goal.isSteady, hb] using hgoals)
      (fun hnulla => ihb hb goals next hgoals fun hnullb =>
        hnext (by simp [Expr.isNullable, hnulla, hnullb]))
    rw [Expr.advance]
    refine follows_enter_expr ?_
    rw [hways]
    refine hfirst.mono ?_
    simp only [rank, Expr.size, Expr.isNullable, Bool.and_eq_true]
    split <;> split <;> simp_all
    omega
  | alt a b iha ihb =>
    intro goals next hgoals hnext
    obtain ⟨ha, hb⟩ := Bool.and_eq_true_iff.mp he
    have hways : goalsWays (.expr (.alt a b) :: goals) p =
        goalsWays (.expr a :: goals) p ++ goalsWays (.expr b :: goals) p :=
      List.flatMap_append
    have hleft := iha ha goals next hgoals fun hnulla => hnext (by simp [Expr.isNullable, hnulla])
    have hright := ihb hb goals next hgoals fun hnullb => hnext (by simp [Expr.isNullable, hnullb])
    rw [Expr.advance]
    refine follows_enter_expr ?_
    rw [hways]
    refine (hleft.mono ?_).seq (hright.mono ?_)
    · simp only [rank, Expr.size, Expr.isNullable, Bool.or_eq_true]
      split <;> split <;> simp_all
      all_goals omega
    · simp only [rank, Expr.size, Expr.isNullable, Bool.or_eq_true]
      split <;> split <;> simp_all
      all_goals omega
  | rep min extra greedy e ih =>
    intro goals next hgoals hnext
    have hsteady : e.isSteady ∧ (extra = none → e.isNullable = false) := by
      cases extra with
      | none => simpa [Expr.isSteady] using he
      | some n => exact ⟨he, by simp⟩
    rw [Expr.advance]
    exact follows_enter_expr
      (follows_repeatRounds (ih hsteady.1) hsteady.1 hsteady.2 hgoals hnext)
  | group name e ih =>
    intro goals next hgoals hnext
    cases name with
    | none =>
      rw [Expr.advance]
      refine follows_enter_expr ((ih he goals next hgoals hnext).mono ?_)
      rw [rank_group]
      omega
    | some name =>
      have hways : goalsWays (.expr (.group (some name) e) :: goals) p =
          (goalsWays (.expr e :: .close name :: goals) p).map (·.behind [.opened name p.pos]) := by
        rw [← Ways.mark_andThen (.opened name)]
        simp only [goalsWays, Goal.ways, Expr.ways, Ways.andThen_assoc]
      -- behind `e` the group is closed, and then `next` goes on
      have hclose : e.isNullable → Follows p (rank (.close name :: goals))
          (goalsWays (.close name :: goals) p)
          fun marks f => next (.closed name p.pos :: marks) f := by
        intro hnull
        rw [goalsWays, Goal.ways, Ways.mark_andThen]
        exact ((hnext hnull).mark _).mono (Nat.le_succ _)
      have hbody := ih he (.close name :: goals) _
        (by simpa [Goal.isSteady] using hgoals) hclose
      rw [Expr.advance]
      refine follows_enter_expr ?_
      rw [hways]
      refine (hbody.mark _).mono ?_
      rw [rank_group]
      simp only [rank]
      split <;> omega

/-- **The step on goals.** -/
theorem follows_resume (p : Place) {goals : List Goal} (hgoals : ∀ goal ∈ goals, goal.isSteady) :
    Follows p (rank goals) (goalsWays goals p) (resume p.around p.pos goals) := by
  induction goals with
  | nil => exact follows_finish p
  | cons goal goals ih =>
    obtain ⟨hgoal, hrest⟩ := List.forall_mem_cons.mp hgoals
    have hnext := ih hrest
    cases goal with
    | expr e => exact follows_advance p hgoal goals _ hrest fun _ => hnext
    | close name =>
      rw [goalsWays, Goal.ways, Ways.mark_andThen]
      exact (hnext.mark _).mono (Nat.le_succ _)
    | round e greedy =>
      obtain ⟨he, hnull⟩ : e.isSteady = true ∧ e.isNullable = false := by
        simpa [Goal.isSteady] using hgoal
      have hways : goalsWays (.round e greedy :: goals) =
          .choose greedy (goalsWays (.expr e :: .round e greedy :: goals)) (goalsWays goals) := by
        rw [goalsWays, Goal.ways, Expr.ways_rep_zero_none greedy hnull, Ways.choose_andThen,
          Ways.stay_andThen, Ways.andThen_assoc]
        rfl
      have hrounds := follows_advance p he (.round e greedy :: goals)
        (Frontier.enter (.round e greedy :: goals) (resume p.around p.pos goals))
        hgoals
        (fun hnullable => by rw [hnull] at hnullable; cases hnullable)
      have hrank : rank (.expr e :: .round e greedy :: goals) = e.size := by simp [rank, hnull]
      rw [hrank] at hrounds
      have hinner : Follows p (e.size + rank goals) (goalsWays (.round e greedy :: goals) p)
          (choose greedy (rounds e greedy (e.advance p.around p.pos) goals
            (resume p.around p.pos goals)) (resume p.around p.pos goals)) := by
        rw [hways]
        exact .choose (hrounds.mono (Nat.le_add_right _ _)) (hnext.mono (Nat.le_add_left _ _))
      exact follows_enter hinner (by rw [rank]; omega)

/-! ## The run -/

theorem settled_empty (p : Place) (n : Nat) : Settled p n .empty := by
  intro goals hmem
  cases hmem

/-- One rank bounds those of all the threads. -/
theorem exists_rank_le (threads : List Thread) : ∃ n, ∀ t ∈ threads, rank t.goals ≤ n := by
  induction threads with
  | nil => exact ⟨0, fun t ht => nomatch ht⟩
  | cons t threads ih =>
    obtain ⟨n, hn⟩ := ih
    refine ⟨max (rank t.goals) n, List.forall_mem_cons.mpr ⟨Nat.le_max_left _ _, ?_⟩⟩
    exact fun t' ht' => Nat.le_trans (hn t' ht') (Nat.le_max_right _ _)

/-- The ways of a thread over the next character. -/
theorem Thread.ways_cons {p : Place} {c : Char} {rest : List Char} (hrest : p.rest = c :: rest)
    (t : Thread) :
    t.ways p = if t.set.contains c then
      (goalsWays t.goals (p.step c rest)).map (·.behind t.marks) else [] := by
  simp only [ways, goalsWays, Goal.ways, Ways.andThen, Expr.ways, hrest]
  split <;> simp

/-- Moving threads over a character explores their ways, one thread after the other. -/
theorem explored_foldl {p : Place} {c : Char} {rest : List Char} (hrest : p.rest = c :: rest)
    {n : Nat} {threads : List Thread} {f : Frontier}
    (hsteady : ∀ t ∈ threads, ∀ goal ∈ t.goals, goal.isSteady)
    (hrank : ∀ t ∈ threads, rank t.goals ≤ n) (hf : Settled (p.step c rest) n f) :
    Explored (p.step c rest) n (threads.flatMap (Thread.ways p)) f
      (threads.foldl (fun f t => if t.set.contains c then
        resume (p.step c rest).around (p.step c rest).pos t.goals t.marks f else f) f) := by
  induction threads generalizing f with
  | nil => exact .refl hf (by simp)
  | cons t threads ih =>
    obtain ⟨hsteadyt, hsteady⟩ := List.forall_mem_cons.mp hsteady
    obtain ⟨hrankt, hrank⟩ := List.forall_mem_cons.mp hrank
    rw [List.flatMap_cons, List.foldl_cons]
    -- the first thread alone; one whose set lacks `c` has no way
    have hfirst : Explored (p.step c rest) n (t.ways p) f
        (if t.set.contains c then
          resume (p.step c rest).around (p.step c rest).pos t.goals t.marks f else f) := by
      rw [Thread.ways_cons hrest]
      split
      · exact (follows_resume _ hsteadyt).mono hrankt t.marks f hf
      · exact .refl hf (by simp)
    exact hfirst.trans (ih hsteady hrank hfirst.settled)

/-- The match of a way from the position `start`. -/
def Match.ofWay (start : Nat) (w : Way) : Match := ⟨start, w.stop.pos, w.marks⟩

/-- The best match is the one found at the last position, of several there the preferred one. -/
theorem Frontier.map_best (start : Nat) (p : Place) (f : Frontier) :
    (f.best p).map (Match.ofWay start) =
      ((f.threads.reverse.flatMap (Thread.ways p)).head?.map (Match.ofWay start)).or
        (f.done.map fun marks => ⟨start, p.pos, marks⟩) := by
  rw [best, ways, List.head?_append]
  cases (f.threads.reverse.flatMap (Thread.ways p)).head? with
  | some w => rfl
  | none => cases f.done <;> rfl

/-- **The run**: threads lead to the first of their ways, and to the best match so far if they have
none. -/
theorem run_eq (start : Nat) (best : Option Match) {threads : List Thread} {p : Place}
    (hsteady : ∀ t ∈ threads, ∀ goal ∈ t.goals, goal.isSteady) :
    run start best threads p.pos p.rest =
      ((threads.flatMap (Thread.ways p)).head?.map (Match.ofWay start)).or best := by
  obtain ⟨before, pos, rest⟩ := p
  induction rest generalizing before pos best threads with
  | nil =>
    have hnone : threads.flatMap (Thread.ways ⟨before, pos, []⟩) = [] := by
      simp [Thread.ways, goalsWays, Goal.ways, Ways.andThen, Expr.ways]
    rw [hnone]
    rfl
  | cons c rest ih =>
    rw [run]
    split
    · next hempty =>
      rw [List.isEmpty_iff.mp hempty]
      rfl
    · -- the next position starts with an empty frontier, which is settled for any rank
      obtain ⟨n, hrank⟩ := exists_rank_le threads
      have hexp : Explored ⟨some c, pos + 1, rest⟩ n
          (threads.flatMap (Thread.ways ⟨before, pos, c :: rest⟩)) .empty
          (move c ⟨some c, rest.head?⟩ (pos + 1) threads) :=
        explored_foldl (p := ⟨before, pos, c :: rest⟩) rfl hsteady hrank (settled_empty _ _)
      have hbest := Frontier.map_best start ⟨some c, pos + 1, rest⟩
        (move c ⟨some c, rest.head?⟩ (pos + 1) threads)
      rw [hexp.best] at hbest
      rw [ih _ hexp.steady_reverse, Option.orElse_eq_orElse, Option.orElse_eq_or,
        ← Option.or_assoc, ← hbest]
      rfl

/-! ## The search -/

/-- The preferred match from a place is the first way. -/
theorem matchAt_eq {e : Expr} (he : e.isSteady) (p : Place) :
    e.matchAt p.before p.pos p.rest = (e.ways p).head?.map (Match.ofWay p.pos) := by
  have hexp := follows_advance p he [] Frontier.finish (by simp)
    (fun _ => follows_finish p) [] .empty (settled_empty _ _)
  have hbest := Frontier.map_best p.pos p (e.advance p.around p.pos [] Frontier.finish [] .empty)
  have hways : (goalsWays [.expr e] p).map (·.behind []) = e.ways p := by
    simp [goalsWays, Goal.ways]
  rw [hexp.best, hways] at hbest
  rw [Expr.matchAt]
  exact (run_eq p.pos _ hexp.steady_reverse).trans hbest.symm

namespace Place

/-- A place and those after it. -/
def onward (before : Option Char) (pos : Nat) : List Char → List Place
  | [] => [⟨before, pos, []⟩]
  | c :: rest => ⟨before, pos, c :: rest⟩ :: onward (some c) (pos + 1) rest

end Place

theorem searchFrom_eq {e : Expr} (he : e.isSteady) (before : Option Char) (pos : Nat)
    (rest : List Char) :
    e.searchFrom before pos rest =
      (Place.onward before pos rest).findSome? fun p =>
        (e.ways p).head?.map (Match.ofWay p.pos) := by
  induction rest generalizing before pos with
  | nil =>
    rw [Expr.searchFrom, matchAt_eq he ⟨before, pos, []⟩]
    simp [Place.onward]
  | cons c rest ih =>
    rw [Expr.searchFrom, matchAt_eq he ⟨before, pos, c :: rest⟩, ih]
    simp only [Place.onward, List.findSome?_cons]
    cases ((e.ways ⟨before, pos, c :: rest⟩).head?.map (Match.ofWay pos)) <;> rfl

/-- **The search finds the leftmost match, and of those from one place the first way.** -/
theorem search_eq_findSome? {e : Expr} (he : e.isSteady) (text : List Char) :
    e.search text =
      (Place.onward none 0 text).findSome? fun p => (e.ways p).head?.map (Match.ofWay p.pos) :=
  searchFrom_eq he none 0 text

/-- What has ways from the beginning of a text alone is searched for there alone. -/
theorem search_of_anchored {e : Expr} (he : e.isSteady)
    (hanchored : ∀ p : Place, p.before.isSome → e.ways p = []) (text : List Char) :
    e.search text = (e.ways ⟨none, 0, text⟩).head?.map (Match.ofWay 0) := by
  have hlater (c : Char) (pos : Nat) (rest : List Char) :
      e.searchFrom (some c) pos rest = none := by
    rw [searchFrom_eq he, List.findSome?_eq_none_iff]
    intro p hp
    -- behind a character there is a character before every place
    have hbefore : p.before.isSome := by
      clear he hanchored
      induction rest generalizing c pos with
      | nil =>
        rw [List.mem_singleton.mp hp]
        rfl
      | cons d rest ih =>
        rcases List.mem_cons.mp hp with rfl | hp
        · rfl
        · exact ih d (pos + 1) hp
    rw [hanchored p hbefore]
    rfl
  cases text with
  | nil =>
    rw [Expr.search, Expr.searchFrom, matchAt_eq he ⟨none, 0, []⟩]
    simp
  | cons c text =>
    rw [Expr.search, Expr.searchFrom, matchAt_eq he ⟨none, 0, c :: text⟩, hlater]
    simp

end PathRouter.Regex
