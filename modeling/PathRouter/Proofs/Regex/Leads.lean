import PathRouter.Proofs.Regex.Groups
import PathRouter.Proofs.Regex.Ways

/-!
# Where an expression leads

`Expr.ways` lists the ways of an expression in the order of preference, but it counts the rounds of
a repetition by the characters that are left, and so it says too little where a round may take up
nothing. `Expr.Leads` is the relation without an order and without a count: from a place an
expression leads on by a way if the constructors say so, one for each step that a match may take.

* `Expr.Leads.exists_skip`: a way ends at the place where it began or further on in the text.
* `Expr.Leads.mark_mem_groups`: the marks of a way belong to groups of the expression.
* `GoalsLead` says the same of what remains to be matched; `GoalsLead.join` takes the first two
  goals together.
-/

namespace PathRouter.Regex

/-- From the place `p` the expression leads on by the way `w`. -/
inductive Expr.Leads : Expr → Place → Way → Prop where
  | empty (p : Place) : Leads .empty p ⟨p, []⟩
  | chars {s : CharSet} {p : Place} {c : Char} {rest : List Char} (hrest : p.rest = c :: rest)
      (hc : s.contains c) : Leads (.chars s) p ⟨p.step c rest, []⟩
  | look {l : Look} {p : Place} (holds : l.holds p.around) : Leads (.look l) p ⟨p, []⟩
  | cat {a b : Expr} {p : Place} {v u : Way} (first : Leads a p v) (second : Leads b v.stop u) :
      Leads (.cat a b) p (u.behind v.marks)
  | altLeft {a b : Expr} {p : Place} {w : Way} (h : Leads a p w) : Leads (.alt a b) p w
  | altRight {a b : Expr} {p : Place} {w : Way} (h : Leads b p w) : Leads (.alt a b) p w
  /-- A round that has to be. -/
  | repMin {min : Nat} {extra : Option Nat} {greedy : Bool} {e : Expr} {p : Place} {v u : Way}
      (round : Leads e p v) (more : Leads (.rep min extra greedy e) v.stop u) :
      Leads (.rep (min + 1) extra greedy e) p (u.behind v.marks)
  /-- No round more. -/
  | repStop {extra : Option Nat} {greedy : Bool} {e : Expr} (p : Place) :
      Leads (.rep 0 extra greedy e) p ⟨p, []⟩
  /-- One of at most so many rounds. -/
  | repUpTo {n : Nat} {greedy : Bool} {e : Expr} {p : Place} {v u : Way} (round : Leads e p v)
      (more : Leads (.rep 0 (some n) greedy e) v.stop u) :
      Leads (.rep 0 (some (n + 1)) greedy e) p (u.behind v.marks)
  /-- One of any number of rounds. -/
  | repAny {greedy : Bool} {e : Expr} {p : Place} {v u : Way} (round : Leads e p v)
      (more : Leads (.rep 0 none greedy e) v.stop u) :
      Leads (.rep 0 none greedy e) p (u.behind v.marks)
  | groupPlain {e : Expr} {p : Place} {w : Way} (h : Leads e p w) : Leads (.group none e) p w
  | groupNamed {name : String} {e : Expr} {p : Place} {w : Way} (h : Leads e p w) :
      Leads (.group (some name) e) p
        ⟨w.stop, .closed name w.stop.pos :: (w.marks ++ [.opened name p.pos])⟩

namespace Expr.Leads

variable {e : Expr} {p : Place} {w : Way}

/-- A way leads nowhere but on in the text. -/
theorem exists_skip (h : e.Leads p w) : ∃ n, n ≤ p.rest.length ∧ w.stop = p.skip n := by
  -- a way of two parts skips what both skip
  have hseq {p : Place} {v u : Way} (hv : ∃ n, n ≤ p.rest.length ∧ v.stop = p.skip n)
      (hu : ∃ n, n ≤ v.stop.rest.length ∧ u.stop = v.stop.skip n) :
      ∃ n, n ≤ p.rest.length ∧ (u.behind v.marks).stop = p.skip n := by
    obtain ⟨m, hm, hvm⟩ := hv
    obtain ⟨n, hn, hun⟩ := hu
    rw [hvm, Place.rest_skip, List.length_drop] at hn
    exact ⟨m + n, by omega, by rw [Way.behind_stop, hun, hvm, Place.skip_skip]⟩
  induction h with
  | empty p | look _ | repStop p => exact ⟨0, Nat.zero_le _, (Place.skip_zero _).symm⟩
  | chars hrest hc =>
    refine ⟨1, by rw [hrest]; exact Nat.succ_le_succ (Nat.zero_le _), ?_⟩
    rw [Place.skip_succ hrest, Place.skip_zero]
  | cat _ _ ihv ihu | repMin _ _ ihv ihu | repUpTo _ _ ihv ihu | repAny _ _ ihv ihu =>
    exact hseq ihv ihu
  | altLeft _ ih | altRight _ ih | groupPlain _ ih | groupNamed _ ih => exact ih

/-- What never takes up a character stays where it is. -/
theorem stop_eq (h : e.Leads p w) (he : e.isZeroWidth) : w.stop = p := by
  induction h with
  | empty | look | repStop => rfl
  | chars => cases he
  | cat _ _ ihv ihu =>
    obtain ⟨ha, hb⟩ := Bool.and_eq_true_iff.mp he
    exact (ihu hb).trans (ihv ha)
  | altLeft _ ih => exact ih (Bool.and_eq_true_iff.mp he).1
  | altRight _ ih => exact ih (Bool.and_eq_true_iff.mp he).2
  | repMin _ _ ihv ihu | repUpTo _ _ ihv ihu | repAny _ _ ihv ihu => exact (ihu he).trans (ihv he)
  | groupPlain _ ih | groupNamed _ ih => exact ih he

/-- The groups that are passed are groups of the expression. -/
theorem mark_mem_groups (h : e.Leads p w) : ∀ mark ∈ w.marks, some mark.name ∈ e.groups := by
  -- in two parts, each mark is of one of them
  have hseq {v u : Way} {gs : List (Option String)}
      (hv : ∀ mark ∈ v.marks, some mark.name ∈ gs) (hu : ∀ mark ∈ u.marks, some mark.name ∈ gs) :
      ∀ mark ∈ (u.behind v.marks).marks, some mark.name ∈ gs := fun mark hmark =>
    (List.mem_append.mp hmark).elim (hu mark) (hv mark)
  induction h with
  | empty | look | repStop | chars => exact fun mark hmark => nomatch hmark
  | cat _ _ ihv ihu =>
    exact hseq (fun mark hmark => List.mem_append_left _ (ihv mark hmark))
      (fun mark hmark => List.mem_append_right _ (ihu mark hmark))
  | altLeft _ ih => exact fun mark hmark => List.mem_append_left _ (ih mark hmark)
  | altRight _ ih => exact fun mark hmark => List.mem_append_right _ (ih mark hmark)
  | repMin _ _ ihv ihu | repUpTo _ _ ihv ihu | repAny _ _ ihv ihu => exact hseq ihv ihu
  | groupPlain _ ih => exact fun mark hmark => List.mem_cons_of_mem _ (ih mark hmark)
  | @groupNamed name e p w _ ih =>
    intro mark hmark
    rcases List.mem_cons.mp hmark with rfl | hmark
    · exact List.mem_cons_self
    rcases List.mem_append.mp hmark with hmark | hmark
    · exact List.mem_cons_of_mem _ (ih mark hmark)
    · rw [List.mem_singleton.mp hmark]
      exact List.mem_cons_self

end Expr.Leads

/-! ## Goals -/

/-- From the place `p` the goal leads on by the way `w`. -/
def Goal.Leads : Goal → Place → Way → Prop
  | .expr e => e.Leads
  | .close name => fun p w => w = ⟨p, [.closed name p.pos]⟩
  | .round e greedy => (Expr.rep 0 none greedy e).Leads

/-- From the place `p` the goals, one after the other, lead on by the way `w`. -/
inductive GoalsLead : List Goal → Place → Way → Prop where
  | nil (p : Place) : GoalsLead [] p ⟨p, []⟩
  | cons {goal : Goal} {goals : List Goal} {p : Place} {v u : Way} (first : goal.Leads p v)
      (rest : GoalsLead goals v.stop u) : GoalsLead (goal :: goals) p (u.behind v.marks)

namespace GoalsLead

variable {a b g : Goal} {goals : List Goal} {p : Place} {w : Way}

/-- A goal that leads where it began, and then the others. -/
theorem of_stay (hg : g.Leads p ⟨p, []⟩) (h : GoalsLead goals p w) :
    GoalsLead (g :: goals) p w := by
  have hcons : GoalsLead (g :: goals) p (w.behind []) := .cons hg h
  rwa [Way.behind_nil] at hcons

/-- A goal may do what another one does. -/
theorem weaken (hg : ∀ {v}, a.Leads p v → g.Leads p v) (h : GoalsLead (a :: goals) p w) :
    GoalsLead (g :: goals) p w := by
  cases h with
  | cons hfirst hrest => exact .cons (hg hfirst) hrest

/-- A goal may do what two others do one after the other. -/
theorem join (hg : ∀ {v u}, a.Leads p v → b.Leads v.stop u → g.Leads p (u.behind v.marks))
    (h : GoalsLead (a :: b :: goals) p w) : GoalsLead (g :: goals) p w := by
  cases h with
  | cons hfirst hmore =>
    cases hmore with
    | cons hsecond hrest =>
      rw [Way.behind_behind]
      exact .cons (hg hfirst hsecond) hrest

end GoalsLead

/-- Expressions in a row lead on like goals. -/
theorem Expr.leads_cats {es : List Expr} {p : Place} {w : Way} :
    (cats es).Leads p w ↔ GoalsLead (es.map .expr) p w := by
  fun_induction cats es generalizing p w with
  | case1 =>
    constructor
    · intro h
      cases h
      exact .nil p
    · intro h
      cases h
      exact .empty p
  | case2 e =>
    constructor
    · intro h
      have hcons : GoalsLead [.expr e] p ((⟨w.stop, []⟩ : Way).behind w.marks) :=
        .cons h (.nil w.stop)
      exact hcons
    · intro h
      cases h with
      | cons hfirst hrest =>
        cases hrest
        exact hfirst
  | case3 e rest _ ih =>
    constructor
    · intro h
      cases h with
      | cat hfirst hsecond => exact .cons hfirst (ih.mp hsecond)
    · intro h
      cases h with
      | cons hfirst hrest => exact .cat hfirst (ih.mpr hrest)

end PathRouter.Regex
