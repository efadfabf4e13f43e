import PathRouter.Params

/-!
# Walks from both ends

A walk over parameters is asked for an entry at its front or at its back, in any order and as often
as one likes (`Cursor.calls`).

* One call splits what is left into what it gives and what it leaves (`remaining_call`); it gives
  nothing exactly if nothing is left (`item_call_eq_none_iff`).
* `remaining_calls` carries that over any calls: what the front gave stands before what is left,
  and what the back gave, turned round, behind it.
* `entries_of_calls` is the walk over all entries of some parameters.
-/

namespace PathRouter.Params.Cursor

/-- An end of a walk. -/
inductive End where
  | front
  | back
deriving DecidableEq, Repr

/-- Takes the entry at an end. -/
def take (c : Cursor) : End → Option (String × String) × Cursor
  | .front => c.next
  | .back => c.nextBack

/-- What a call shows. -/
structure Call where
  /-- The end at which an entry was asked for. -/
  side : End
  /-- The entry, if there was one. -/
  item : Option (String × String)
  /-- How many entries are left behind the call. -/
  left : Nat
deriving DecidableEq, Repr

/-- A call at an end. -/
def call (c : Cursor) (side : End) : Call := ⟨side, (c.take side).1, (c.take side).2.size⟩

/-- Calls at some ends, one after the other. -/
def calls (c : Cursor) : List End → List Call
  | [] => []
  | side :: sides => c.call side :: (c.take side).2.calls sides

/-- The walk behind calls at some ends. -/
def after (c : Cursor) : List End → Cursor
  | [] => c
  | side :: sides => (c.take side).2.after sides

/-- The entries that some calls gave, in the order of the calls. -/
def items (calls : List Call) : List (String × String) := calls.filterMap (·.item)

/-- Those of them that were asked for at the end `side`. -/
def itemsAt (side : End) (calls : List Call) : List (String × String) :=
  items (calls.filter (·.side = side))

/-! ## Calls in a row -/

theorem sides_calls (c : Cursor) (sides : List End) : (c.calls sides).map (·.side) = sides := by
  induction sides generalizing c with
  | nil => rfl
  | cons side sides ih => rw [calls, List.map_cons, ih, call]

/-- Among calls in a row each is one at the walk behind those before it. -/
theorem calls_eq_append_cons {c : Cursor} {sides : List End} {before later : List Call}
    {call : Call} (h : c.calls sides = before ++ call :: later) :
    ∃ sides' side sides'', before = c.calls sides' ∧ call = (c.after sides').call side ∧
      later = ((c.after sides').take side).2.calls sides'' := by
  induction before generalizing c sides with
  | nil =>
    cases sides with
    | nil => cases h
    | cons side sides =>
      rw [calls, List.nil_append, List.cons.injEq] at h
      exact ⟨[], side, sides, rfl, h.1.symm, h.2.symm⟩
  | cons first before ih =>
    cases sides with
    | nil => cases h
    | cons side sides =>
      rw [calls, List.cons_append, List.cons.injEq] at h
      obtain ⟨sides', side', sides'', rfl, hcall, hlater⟩ := ih h.2
      exact ⟨side :: sides', side', sides'', by rw [calls, h.1], hcall, hlater⟩

theorem items_append (calls calls' : List Call) :
    items (calls ++ calls') = items calls ++ items calls' :=
  List.filterMap_append

theorem itemsAt_append (side : End) (calls calls' : List Call) :
    itemsAt side (calls ++ calls') = itemsAt side calls ++ itemsAt side calls' := by
  rw [itemsAt, List.filter_append, items_append, itemsAt, itemsAt]

/-- Every entry is given at one of the ends. -/
theorem length_items (calls : List Call) :
    (items calls).length = (itemsAt .front calls).length + (itemsAt .back calls).length := by
  induction calls with
  | nil => rfl
  | cons call calls ih =>
    obtain ⟨side, item, left⟩ := call
    simp only [itemsAt, items] at ih ⊢
    cases side <;> cases item <;> simp [ih] <;> omega

/-! ## One call -/

/-- **The step.** A call takes what it gives off one end of what is left. -/
theorem remaining_call (c : Cursor) (side : End) :
    c.remaining = itemsAt .front [c.call side] ++ (c.take side).2.remaining ++
      (itemsAt .back [c.call side]).reverse := by
  obtain ⟨remaining⟩ := c
  cases side with
  | front => cases remaining <;> simp [itemsAt, items, call, take, next]
  | back =>
    cases hlast : remaining.getLast? with
    | none => simp [itemsAt, items, call, take, nextBack, List.getLast?_eq_none_iff.mp hlast]
    | some entry =>
      obtain ⟨initial, rfl⟩ := List.getLast?_eq_some_iff.mp hlast
      simp [itemsAt, items, call, take, nextBack]

theorem item_call_eq_none_iff (c : Cursor) (side : End) :
    (c.call side).item = none ↔ c.remaining = [] := by
  cases side with
  | front => exact List.head?_eq_none_iff
  | back => exact List.getLast?_eq_none_iff

/-! ## Any calls -/

/-- **The run.** -/
theorem remaining_calls (c : Cursor) (sides : List End) :
    c.remaining = itemsAt .front (c.calls sides) ++ (c.after sides).remaining ++
      (itemsAt .back (c.calls sides)).reverse := by
  induction sides generalizing c with
  | nil => exact (List.append_nil _).symm
  | cons side sides ih =>
    rw [calls, after, ← List.singleton_append, itemsAt_append, itemsAt_append, List.reverse_append]
    calc c.remaining
        = itemsAt .front [c.call side] ++ (c.take side).2.remaining ++
            (itemsAt .back [c.call side]).reverse := c.remaining_call side
      _ = _ := by rw [ih]; simp only [List.append_assoc]

/-- What is left and what was given is as much as was there. -/
theorem size_calls (c : Cursor) (sides : List End) :
    (c.after sides).size + (items (c.calls sides)).length = c.size := by
  have hlength := congrArg List.length (c.remaining_calls sides)
  simp only [List.length_append, List.length_reverse] at hlength
  rw [length_items, size, size]
  omega

/-- Where nothing is left no call gives anything. -/
theorem items_calls_eq_nil {c : Cursor} (h : c.remaining = []) (sides : List End) :
    items (c.calls sides) = [] := by
  have hsize := c.size_calls sides
  rw [size, size, h, List.length_nil] at hsize
  exact List.length_eq_zero_iff.mp (by omega)

/-- **A walk loses nothing and repeats nothing, however its ends are asked.** What the front gave,
in order, is at the front of the entries, and what the back gave, turned round, is at their back
behind all of that. Each call tells how many entries are left: all but those that have been given by
then. It gives none exactly if all have been given before, and then neither end ever gives one
again. -/
theorem entries_of_calls (p : Params) (sides : List End) :
    (p.cursor.calls sides).map (·.side) = sides ∧
      (∃ rest, p.entries = itemsAt .front (p.cursor.calls sides) ++ rest ++
        (itemsAt .back (p.cursor.calls sides)).reverse) ∧
      ∀ before call later, p.cursor.calls sides = before ++ call :: later →
        call.left + (items (before ++ [call])).length = p.size ∧
          (call.item = none ↔ (items before).length = p.size) ∧
          (call.item = none → ∀ call' ∈ later, call'.item = none) := by
  refine ⟨p.cursor.sides_calls sides, ⟨_, p.cursor.remaining_calls sides⟩, ?_⟩
  intro before call later hcalls
  obtain ⟨sides', side, sides'', rfl, rfl, rfl⟩ := calls_eq_append_cons hcalls
  have hbefore : (p.cursor.after sides').size + (items (p.cursor.calls sides')).length = p.size :=
    p.cursor.size_calls sides'
  have hnone := (p.cursor.after sides').item_call_eq_none_iff side
  refine ⟨?_, ?_, fun hitem => ?_⟩
  · have hcall := (p.cursor.after sides').size_calls [side]
    rw [items_append, List.length_append]
    show ((p.cursor.after sides').after [side]).size +
      (_ + (items (Cursor.calls _ [side])).length) = p.size
    omega
  · rw [hnone, ← List.length_eq_zero_iff]
    unfold size at hbefore
    omega
  · -- the call has taken nothing from nothing
    have hrest : ((p.cursor.after sides').take side).2.remaining = [] := by
      have hsplit := (p.cursor.after sides').remaining_call side
      rw [hnone.mp hitem] at hsplit
      exact (List.append_eq_nil_iff.mp (List.append_eq_nil_iff.mp hsplit.symm).1).2
    intro call' hcall'
    exact List.filterMap_eq_nil_iff.mp (items_calls_eq_nil hrest sides'') call' hcall'

end PathRouter.Params.Cursor
