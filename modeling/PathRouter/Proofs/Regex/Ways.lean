import Mathlib.Data.List.Basic
import PathRouter.Regex.Search

/-!
# The ways in which an expression matches

What an expression matches, said without a search: from a place in a text it leads on in a list of
ways, the preferred ones first. A sequence takes each way of its first part and goes on with those
of its second; of two alternatives the ways of the left one come first; a greedy repetition prefers
another round to none and a lazy one the other way round. A way also has the marks of the groups
that it passes.

* `Ways.andThen` composes ways; it is associative and `Ways.stay` is its unit, so that an expression
  in front of goals can be taken apart and put together again.
* `Expr.ways` reads an expression, `goalsWays` what remains to be matched.
* An expression is steady (`Expr.isSteady`) if each unbounded repetition in it takes up a character
  in every round. Then a repetition without end is one with as many rounds as there are characters
  left (`Ways.upTo_of_length_le`), and it is one round and the repetition again, or nothing
  (`ways_rep_zero_none`).
-/

namespace PathRouter.Regex

/-- A place in a text. -/
structure Place where
  /-- The character before it. -/
  before : Option Char
  /-- How many characters stand before it. -/
  pos : Nat
  /-- The text from there on. -/
  rest : List Char
deriving DecidableEq, Repr

namespace Place

/-- The characters on either side. -/
def around (p : Place) : Around := ⟨p.before, p.rest.head?⟩

/-- The place behind the character `c`, with `rest` after it. -/
def step (p : Place) (c : Char) (rest : List Char) : Place := ⟨some c, p.pos + 1, rest⟩

/-- The place `n` characters on, or the end of the text if there are less. -/
def skip (p : Place) : Nat → Place
  | 0 => p
  | n + 1 =>
    match p.rest with
    | [] => p
    | c :: rest => (p.step c rest).skip n

@[simp] theorem skip_zero (p : Place) : p.skip 0 = p := by
  rw [skip]

theorem skip_succ {p : Place} {c : Char} {rest : List Char} (hrest : p.rest = c :: rest) (n : Nat) :
    p.skip (n + 1) = (p.step c rest).skip n := by
  rw [skip, hrest]

theorem rest_skip (p : Place) (n : Nat) : (p.skip n).rest = p.rest.drop n := by
  induction n generalizing p with
  | zero => simp
  | succ n ih =>
    rw [skip]
    split
    · next hrest => simp [hrest]
    · next c rest hrest =>
      rw [ih, hrest]
      rfl

theorem pos_skip {p : Place} {n : Nat} (hn : n ≤ p.rest.length) : (p.skip n).pos = p.pos + n := by
  induction n generalizing p with
  | zero => simp
  | succ n ih =>
    cases hrest : p.rest with
    | nil => simp [hrest] at hn
    | cons c rest =>
      rw [hrest, List.length_cons] at hn
      rw [skip_succ hrest, ih (Nat.le_of_succ_le_succ hn)]
      simp only [step]
      omega

theorem skip_skip (p : Place) (m n : Nat) : (p.skip m).skip n = p.skip (m + n) := by
  induction m generalizing p with
  | zero => simp
  | succ m ih =>
    cases hrest : p.rest with
    | nil =>
      have hend (k : Nat) : p.skip k = p := by
        cases k with
        | zero => exact skip_zero p
        | succ k => rw [skip, hrest]
      rw [hend, hend, hend]
    | cons c rest => rw [skip_succ hrest, ih, Nat.add_right_comm, skip_succ hrest]

/-- From anywhere the way to the end of the text leads to one place. -/
theorem skip_length_rest {p : Place} {n : Nat} (hn : n ≤ p.rest.length) :
    (p.skip n).skip (p.skip n).rest.length = p.skip p.rest.length := by
  rw [rest_skip, skip_skip, List.length_drop, Nat.add_sub_cancel' hn]

end Place

/-- A way from one place to another. -/
structure Way where
  stop : Place
  /-- The groups that are passed, latest first. -/
  marks : List Mark
deriving DecidableEq, Repr

namespace Way

/-- The way as it goes on from one with the marks `marks`. -/
def behind (marks : List Mark) (w : Way) : Way := ⟨w.stop, w.marks ++ marks⟩

@[simp] theorem behind_stop (marks : List Mark) (w : Way) : (w.behind marks).stop = w.stop := rfl

@[simp] theorem behind_marks (marks : List Mark) (w : Way) :
    (w.behind marks).marks = w.marks ++ marks := rfl

@[simp] theorem behind_nil (w : Way) : w.behind [] = w := by
  simp [behind]

@[simp] theorem behind_behind (marks marks' : List Mark) (w : Way) :
    (w.behind marks).behind marks' = w.behind (marks ++ marks') := by
  simp [behind]

end Way

/-- The ways that lead on from a place, most preferred first. -/
abbrev Ways : Type := Place → List Way

namespace Ways

/-- The way that takes up nothing. -/
def stay : Ways := fun p => [⟨p, []⟩]

/-- Passes the end of a group, or its beginning. -/
def mark (m : Nat → Mark) : Ways := fun p => [⟨p, [m p.pos]⟩]

/-- Each way of `f`, and on from its end with each way of `g`. -/
def andThen (f g : Ways) : Ways := fun p =>
  (f p).flatMap fun w => (g w.stop).map (·.behind w.marks)

/-- The ways of `more` before those of `less` if `greedy`, and after them if not. -/
def choose (greedy : Bool) (more less : Ways) : Ways := fun p =>
  if greedy then more p ++ less p else less p ++ more p

/-- Up to `n` rounds. -/
def upTo (greedy : Bool) (f : Ways) : Nat → Ways
  | 0 => stay
  | n + 1 => choose greedy (f.andThen (upTo greedy f n)) stay

/-- Just `n` rounds. -/
def times (f : Ways) : Nat → Ways
  | 0 => stay
  | n + 1 => f.andThen (times f n)

/-- `min` rounds and up to `extra` more: without end, up to one for each character that is left. -/
def repeated (min : Nat) (extra : Option Nat) (greedy : Bool) (f : Ways) : Ways :=
  (f.times min).andThen fun p => upTo greedy f (extra.getD p.rest.length) p

/-! ## Composition -/

theorem andThen_apply (f g : Ways) (p : Place) :
    f.andThen g p = (f p).flatMap fun w => (g w.stop).map (·.behind w.marks) := rfl

theorem mem_andThen {f g : Ways} {p : Place} {v : Way} :
    v ∈ f.andThen g p ↔ ∃ w ∈ f p, ∃ u ∈ g w.stop, v = u.behind w.marks := by
  simp only [andThen, List.mem_flatMap, List.mem_map, eq_comm]

@[simp] theorem stay_andThen (f : Ways) : stay.andThen f = f := by
  funext p
  simp [andThen, stay]

@[simp] theorem andThen_stay (f : Ways) : f.andThen stay = f := by
  funext p
  simp [andThen, stay, Way.behind]

/-- Passing a mark first is going on from a way with that mark. -/
theorem mark_andThen (m : Nat → Mark) (f : Ways) (p : Place) :
    (mark m).andThen f p = (f p).map (·.behind [m p.pos]) := by
  simp [andThen, mark]

theorem andThen_mark (f : Ways) (m : Nat → Mark) (p : Place) :
    f.andThen (mark m) p = (f p).map fun w => ⟨w.stop, m w.stop.pos :: w.marks⟩ := by
  simp [andThen, mark, Way.behind, List.map_eq_flatMap]

theorem andThen_assoc (f g h : Ways) : (f.andThen g).andThen h = f.andThen (g.andThen h) := by
  funext p
  simp only [andThen, List.flatMap_assoc, List.map_flatMap, List.flatMap_map, Way.behind_stop,
    Way.behind_marks, List.map_map]
  congr 1
  funext w
  congr 1
  funext v
  congr 1
  funext u
  exact (Way.behind_behind _ _ _).symm

/-- A choice between two beginnings is a choice between two ways on. -/
theorem choose_andThen (greedy : Bool) (more less f : Ways) :
    (choose greedy more less).andThen f = choose greedy (more.andThen f) (less.andThen f) := by
  funext p
  cases greedy <;> simp [andThen, choose]

/-- From a place only what holds at the ends of the ways of `f` counts for what comes after. -/
theorem andThen_congr {f g h : Ways} {p : Place} (hgh : ∀ w ∈ f p, g w.stop = h w.stop) :
    f.andThen g p = f.andThen h p := by
  refine List.flatMap_congr fun w hw => ?_
  rw [hgh w hw]

/-! ## Rounds -/

/-- Every way takes up a character. -/
def Shrinks (f : Ways) : Prop := ∀ p, ∀ w ∈ f p, w.stop.rest.length < p.rest.length

/-- No way gives a character back. -/
def Advances (f : Ways) : Prop := ∀ p, ∀ w ∈ f p, w.stop.rest.length ≤ p.rest.length

theorem advances_stay : stay.Advances := by
  intro p w hw
  obtain rfl := List.mem_singleton.mp hw
  exact Nat.le_refl _

theorem advances_mark (m : Nat → Mark) : (mark m).Advances := by
  intro p w hw
  obtain rfl := List.mem_singleton.mp hw
  exact Nat.le_refl _

theorem Advances.andThen {f g : Ways} (hf : f.Advances) (hg : g.Advances) :
    (f.andThen g).Advances := by
  intro p v hv
  obtain ⟨w, hw, u, hu, rfl⟩ := mem_andThen.mp hv
  exact Nat.le_trans (hg w.stop u hu) (hf p w hw)

theorem Shrinks.andThen_advances {f g : Ways} (hf : f.Shrinks) (hg : g.Advances) :
    (f.andThen g).Shrinks := by
  intro p v hv
  obtain ⟨w, hw, u, hu, rfl⟩ := mem_andThen.mp hv
  exact Nat.lt_of_le_of_lt (hg w.stop u hu) (hf p w hw)

theorem Advances.andThen_shrinks {f g : Ways} (hf : f.Advances) (hg : g.Shrinks) :
    (f.andThen g).Shrinks := by
  intro p v hv
  obtain ⟨w, hw, u, hu, rfl⟩ := mem_andThen.mp hv
  exact Nat.lt_of_lt_of_le (hg w.stop u hu) (hf p w hw)

theorem Advances.upTo {f : Ways} (hf : f.Advances) (greedy : Bool) (n : Nat) :
    (upTo greedy f n).Advances := by
  induction n with
  | zero => exact advances_stay
  | succ n ih =>
    intro p w hw
    -- whichever of the two is preferred, a way is one round and more of them, or none
    have hmem : w ∈ f.andThen (Ways.upTo greedy f n) p ∨ w ∈ stay p := by
      cases greedy
      · exact (List.mem_append.mp hw).symm
      · exact List.mem_append.mp hw
    rcases hmem with hmem | hmem
    · exact hf.andThen ih p w hmem
    · exact advances_stay p w hmem

theorem Advances.times {f : Ways} (hf : f.Advances) (n : Nat) : (f.times n).Advances := by
  induction n with
  | zero => exact advances_stay
  | succ n ih => exact hf.andThen ih

theorem Advances.repeated {f : Ways} (hf : f.Advances) (min : Nat) (extra : Option Nat)
    (greedy : Bool) : (Ways.repeated min extra greedy f).Advances :=
  (hf.times min).andThen fun p w hw => hf.upTo greedy (extra.getD p.rest.length) p w hw

/-- Where every round takes up a character, more rounds than there are characters left add
nothing. -/
theorem upTo_of_length_le {f : Ways} (hf : f.Shrinks) (greedy : Bool) {n : Nat} {p : Place}
    (hn : p.rest.length ≤ n) : upTo greedy f n p = upTo greedy f p.rest.length p := by
  induction n using Nat.strongRecOn generalizing p with
  | ind n ih =>
  cases n with
  | zero => rw [Nat.le_zero.mp hn]
  | succ n =>
    cases hlen : p.rest.length with
    | zero =>
      -- at the end of the text there is no round at all
      have hnone : f p = [] := List.eq_nil_iff_forall_not_mem.mpr fun w hw => by
        have := hf p w hw
        omega
      cases greedy <;> simp [upTo, choose, andThen, hnone, stay]
    | succ k =>
      have hround : f.andThen (upTo greedy f n) p = f.andThen (upTo greedy f k) p := by
        refine andThen_congr fun w hw => ?_
        -- both counts are enough for what is left behind the round
        have hw' : w.stop.rest.length < k + 1 := hlen ▸ hf p w hw
        rw [ih n (Nat.lt_succ_self n) (by omega), ih k (by omega) (by omega)]
      simp only [upTo, choose, hround]

end Ways

/-! ## Expressions -/

namespace Expr

/-- The ways in which an expression matches. -/
def ways : Expr → Ways
  | empty => .stay
  | chars s => fun p =>
    match p.rest with
    | [] => []
    | c :: rest => if s.contains c then [⟨p.step c rest, []⟩] else []
  | look l => fun p => if l.holds p.around then [⟨p, []⟩] else []
  | cat a b => a.ways.andThen b.ways
  | alt a b => fun p => a.ways p ++ b.ways p
  | rep min extra greedy e => .repeated min extra greedy e.ways
  | group none e => e.ways
  | group (some name) e =>
    (Ways.mark (.opened name)).andThen (e.ways.andThen (Ways.mark (.closed name)))

/-- Whether every unbounded repetition in the expression takes up a character in each round. -/
def isSteady : Expr → Bool
  | empty | chars _ | look _ => true
  | cat a b | alt a b => a.isSteady && b.isSteady
  | rep _ none _ e => e.isSteady && !e.isNullable
  | rep _ (some _) _ e => e.isSteady
  | group _ e => e.isSteady

theorem isSteady_cats (es : List Expr) : (cats es).isSteady = es.all isSteady := by
  fun_induction cats es with
  | case1 => rfl
  | case2 e => simp
  | case3 e rest _ ih => simp [isSteady, ih]

theorem mem_ways_chars {s : CharSet} {p : Place} {w : Way} (h : w ∈ (chars s).ways p) :
    ∃ c rest, p.rest = c :: rest ∧ w = ⟨p.step c rest, []⟩ := by
  simp only [ways] at h
  split at h
  · cases h
  · next c rest hrest =>
    split at h
    · exact ⟨c, rest, hrest, List.mem_singleton.mp h⟩
    · cases h

theorem advances_ways (e : Expr) : e.ways.Advances := by
  induction e with
  | empty => exact Ways.advances_stay
  | chars s =>
    intro p w hw
    obtain ⟨c, rest, hrest, rfl⟩ := mem_ways_chars hw
    rw [hrest]
    exact Nat.le_succ _
  | look l =>
    intro p w hw
    simp only [ways] at hw
    split at hw
    · obtain rfl := List.mem_singleton.mp hw
      exact Nat.le_refl _
    · cases hw
  | cat a b iha ihb => exact iha.andThen ihb
  | alt a b iha ihb =>
    intro p w hw
    rcases List.mem_append.mp hw with hw | hw
    · exact iha p w hw
    · exact ihb p w hw
  | rep min extra greedy e ih => exact ih.repeated min extra greedy
  | group name e ih =>
    cases name with
    | none => exact ih
    | some name =>
      exact (Ways.advances_mark _).andThen (ih.andThen (Ways.advances_mark _))

/-- What cannot match without taking up a character takes up one in every way. -/
theorem shrinks_ways {e : Expr} (he : e.isNullable = false) : e.ways.Shrinks := by
  induction e with
  | empty => cases he
  | chars s =>
    intro p w hw
    obtain ⟨c, rest, hrest, rfl⟩ := mem_ways_chars hw
    rw [hrest]
    exact Nat.lt_succ_self _
  | look l => cases he
  | cat a b iha ihb =>
    rw [isNullable, Bool.and_eq_false_iff] at he
    -- one of the two parts takes up a character, and the other gives none back
    rcases he with he | he
    · exact (iha he).andThen_advances b.advances_ways
    · exact a.advances_ways.andThen_shrinks (ihb he)
  | alt a b iha ihb =>
    rw [isNullable, Bool.or_eq_false_iff] at he
    intro p w hw
    rcases List.mem_append.mp hw with hw | hw
    · exact iha he.1 p w hw
    · exact ihb he.2 p w hw
  | rep min extra greedy e ih =>
    simp only [isNullable, Bool.or_eq_false_iff, decide_eq_false_iff_not] at he
    cases min with
    | zero => exact absurd rfl he.1
    | succ min =>
      -- there is a first round, and it takes up a character
      have hrounds : (Ways.times e.ways (min + 1)).Shrinks :=
        (ih he.2).andThen_advances ((advances_ways e).times min)
      exact hrounds.andThen_advances fun p w hw =>
        (advances_ways e).upTo greedy (extra.getD p.rest.length) p w hw
  | group name e ih =>
    cases name with
    | none => exact ih he
    | some name =>
      exact (Ways.advances_mark _).andThen_shrinks ((ih he).andThen_advances (Ways.advances_mark _))

/-! ### Repetition, one round at a time -/

theorem ways_rep_succ (min : Nat) (extra : Option Nat) (greedy : Bool) (e : Expr) :
    (rep (min + 1) extra greedy e).ways = e.ways.andThen (rep min extra greedy e).ways := by
  rw [ways, ways, Ways.repeated, Ways.repeated, Ways.times, Ways.andThen_assoc]

theorem ways_rep_zero_some_zero (greedy : Bool) (e : Expr) :
    (rep 0 (some 0) greedy e).ways = .stay := by
  rw [ways, Ways.repeated, Ways.times, Ways.stay_andThen]
  rfl

theorem ways_rep_zero_some_succ (n : Nat) (greedy : Bool) (e : Expr) :
    (rep 0 (some (n + 1)) greedy e).ways =
      .choose greedy (e.ways.andThen (rep 0 (some n) greedy e).ways) .stay := by
  simp only [ways, Ways.repeated, Ways.times, Ways.stay_andThen, Option.getD_some]
  rfl

/-- An unbounded repetition is a round and the repetition again, or nothing. -/
theorem ways_rep_zero_none (greedy : Bool) {e : Expr} (he : e.isNullable = false) :
    (rep 0 none greedy e).ways =
      .choose greedy (e.ways.andThen (rep 0 none greedy e).ways) .stay := by
  have hf := shrinks_ways he
  simp only [ways, Ways.repeated, Ways.times, Ways.stay_andThen, Option.getD_none]
  funext p
  -- one round more than there are characters left, so that the first one can be taken off
  rw [← Ways.upTo_of_length_le hf greedy (Nat.le_succ p.rest.length), Ways.upTo]
  have hround : e.ways.andThen (Ways.upTo greedy e.ways p.rest.length) p =
      e.ways.andThen (fun q => Ways.upTo greedy e.ways q.rest.length q) p :=
    Ways.andThen_congr fun w hw =>
      Ways.upTo_of_length_le hf greedy (Nat.le_of_lt (hf p w hw))
  simp only [Ways.choose, hround]

end Expr

/-! ## Goals -/

namespace Goal

/-- The ways in which a goal is reached. -/
def ways : Goal → Ways
  | expr e => e.ways
  | close name => .mark (.closed name)
  | round e greedy => (Expr.rep 0 none greedy e).ways

/-- Whether the expressions in a goal are steady, and a round takes up a character. -/
def isSteady : Goal → Bool
  | expr e => e.isSteady
  | close _ => true
  | round e _ => e.isSteady && !e.isNullable

end Goal

/-- The ways in which goals are reached one after the other. -/
def goalsWays : List Goal → Ways
  | [] => .stay
  | goal :: goals => goal.ways.andThen (goalsWays goals)

theorem goalsWays_append (goals goals' : List Goal) :
    goalsWays (goals ++ goals') = (goalsWays goals).andThen (goalsWays goals') := by
  induction goals with
  | nil => simp [goalsWays]
  | cons goal goals ih => rw [List.cons_append, goalsWays, goalsWays, ih, Ways.andThen_assoc]

/-- Expressions in a row lead on like goals. -/
theorem Expr.ways_cats (es : List Expr) : (cats es).ways = goalsWays (es.map .expr) := by
  fun_induction cats es with
  | case1 => rfl
  | case2 e => simp [goalsWays, Goal.ways]
  | case3 e rest _ ih =>
    rw [ways, ih]
    rfl

/-- One character of a set. -/
theorem Expr.ways_chars_cons {p : Place} {c : Char} {rest : List Char}
    (hrest : p.rest = c :: rest) (s : CharSet) :
    (chars s).ways p = if s.contains c then [⟨p.step c rest, []⟩] else [] := by
  simp only [ways, hrest]

theorem Expr.ways_chars_nil {p : Place} (hrest : p.rest = []) (s : CharSet) :
    (chars s).ways p = [] := by
  simp only [ways, hrest]

/-- A greedy run of characters of a set prefers the longer ones. -/
theorem upTo_chars_eq {s : CharSet} {n : Nat} {p : Place} (hn : p.rest.length ≤ n) :
    Ways.upTo true (Expr.chars s).ways n p =
      (List.range ((p.rest.takeWhile s.contains).length + 1)).reverse.map
        fun k => ⟨p.skip k, []⟩ := by
  induction n generalizing p with
  | zero =>
    rw [List.length_eq_zero_iff.mp (Nat.le_zero.mp hn)]
    simp [Ways.upTo, Ways.stay]
  | succ n ih =>
    rw [Ways.upTo, Ways.choose, if_pos rfl, Ways.andThen_apply]
    cases hrest : p.rest with
    | nil => simp [Expr.ways_chars_nil hrest, Ways.stay]
    | cons c rest =>
      rw [Expr.ways_chars_cons hrest]
      cases hc : s.contains c with
      | false => simp [hc, Ways.stay]
      | true =>
        rw [hrest, List.length_cons] at hn
        -- the longer runs are those from the next place on, and the empty run comes last
        have hmore := ih (p := p.step c rest) (Nat.le_of_succ_le_succ hn)
        rw [show (p.step c rest).rest = rest from rfl] at hmore
        rw [List.takeWhile_cons_of_pos hc, List.length_cons, List.range_succ_eq_map]
        simp [hmore, Ways.stay, Function.comp_def, Place.skip_succ hrest, Way.behind]

/-- At least one character of a set, and as many as there are. -/
theorem Expr.ways_rep_one_chars (s : CharSet) (p : Place) :
    (rep 1 none true (chars s)).ways p =
      (List.range (p.rest.takeWhile s.contains).length).reverse.map
        fun k => ⟨p.skip (k + 1), []⟩ := by
  have hmore (q : Place) : (rep 0 none true (chars s)).ways q =
      (List.range ((q.rest.takeWhile s.contains).length + 1)).reverse.map
        fun k => ⟨q.skip k, []⟩ := by
    simp only [ways, Ways.repeated, Ways.times, Ways.stay_andThen, Option.getD_none]
    exact upTo_chars_eq (Nat.le_refl _)
  rw [ways_rep_succ, Ways.andThen_apply]
  cases hrest : p.rest with
  | nil => simp [ways_chars_nil hrest]
  | cons c rest =>
    rw [ways_chars_cons hrest]
    cases hc : s.contains c with
    | false => simp [hc]
    | true =>
      rw [List.takeWhile_cons_of_pos hc, List.length_cons, if_pos rfl, List.flatMap_singleton,
        hmore]
      simp [Way.behind, Place.skip_succ hrest, show (p.step c rest).rest = rest from rfl]

end PathRouter.Regex
