import PathRouter.Regex.Basic

/-!
# Groups

Which groups an expression has when it is put together from others, and what a group has matched
when the marks of a match are those of several parts.
-/

namespace PathRouter.Regex

/-! ## The groups of a composed expression -/

namespace Expr

theorem groups_cats (es : List Expr) : (cats es).groups = es.flatMap groups := by
  induction es with
  | nil => rfl
  | cons e rest ih =>
    cases rest with
    | nil => simp [cats]
    | cons e' rest =>
      show e.groups ++ (cats (e' :: rest)).groups = _
      rw [ih]
      rfl

theorem groups_alts (es : List Expr) : (alts es).groups = es.flatMap groups := by
  induction es with
  | nil => rfl
  | cons e rest ih =>
    cases rest with
    | nil => simp [alts]
    | cons e' rest =>
      show e.groups ++ (alts (e' :: rest)).groups = _
      rw [ih]
      rfl

/-- Only a repetition of at most zero times takes groups away. -/
theorem groups_repeated (min : Nat) (max : Option Nat) (greedy : Bool) (e : Expr) :
    (repeated min max greedy e).groups = if max = some 0 then [] else e.groups := by
  have hzero : (if e.isZeroWidth then some (Nat.min (max.getD 1) 1) else max) = some 0 ↔
      max = some 0 := by
    cases max with
    | none => split <;> simp
    | some n =>
      split
      · simp only [Option.getD_some, Option.some.injEq]
        rw [Nat.min_eq_zero_iff]
        simp
      · rfl
  unfold repeated
  simp only [hzero]
  by_cases hmax : max = some 0
  · simp [hmax, groups]
  · simp only [hmax, if_false]
    split
    · split <;> rfl
    · split <;> rfl

end Expr

/-! ## What a group has matched -/

/-- The group that a mark belongs to. -/
def Mark.name : Mark → String
  | .opened name _ => name
  | .closed name _ => name

namespace Match

variable {start stop : Nat} {later marks marks' : List Mark} {text : List Char} {name : String}

/-- What a group matched depends on the marks of that group only. -/
theorem group?_congr
    (h : ∀ f : Mark → Option Nat, (∀ mark, mark.name ≠ name → f mark = none) →
      marks.findSome? f = marks'.findSome? f) :
    group? ⟨start, stop, marks⟩ text name = group? ⟨start, stop, marks'⟩ text name := by
  unfold group?
  -- the marks are searched twice: for where the group ended last, and for where it began
  rw [h, h]
  · intro mark hmark
    cases mark with
    | opened n pos => exact if_neg hmark
    | closed n pos => rfl
  · intro mark hmark
    cases mark with
    | opened n pos => rfl
    | closed n pos => exact if_neg hmark

/-- What other groups did later does not change what a group matched. -/
theorem group?_append_right (h : ∀ mark ∈ later, mark.name ≠ name) :
    group? ⟨start, stop, later ++ marks⟩ text name = group? ⟨start, stop, marks⟩ text name := by
  refine group?_congr fun f hf => ?_
  have hlater : later.findSome? f = none :=
    List.findSome?_eq_none_iff.mpr fun mark hmark => hf mark (h mark hmark)
  rw [List.findSome?_append, hlater, Option.none_or]

/-- Nor does what other groups did before. -/
theorem group?_append_left (h : ∀ mark ∈ marks, mark.name ≠ name) :
    group? ⟨start, stop, later ++ marks⟩ text name = group? ⟨start, stop, later⟩ text name := by
  refine group?_congr fun f hf => ?_
  have hmarks : marks.findSome? f = none :=
    List.findSome?_eq_none_iff.mpr fun mark hmark => hf mark (h mark hmark)
  rw [List.findSome?_append, hmarks, Option.or_none]

/-- A group that has just been passed matched what lies between its marks. -/
theorem group?_between {inside : List Mark} (h : ∀ mark ∈ inside, mark.name ≠ name)
    (start' stop' : Nat) :
    group? ⟨start, stop, .closed name stop' :: (inside ++ [.opened name start'])⟩ text name =
      some (slice text start' stop') := by
  have hends :
      group? ⟨start, stop, .closed name stop' :: (inside ++ [.opened name start'])⟩ text name =
        group? ⟨start, stop, [.closed name stop', .opened name start']⟩ text name := by
    refine group?_congr fun f hf => ?_
    have hnone : inside.findSome? f = none :=
      List.findSome?_eq_none_iff.mpr fun mark hmark => hf mark (h mark hmark)
    rw [List.findSome?_cons, List.findSome?_cons, List.findSome?_append, hnone, Option.none_or]
  rw [hends]
  simp [group?]

end Match

end PathRouter.Regex
