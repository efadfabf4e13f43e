import PathRouter.Proofs.Regex.Reading

/-!
# How some texts are read

The tokens of the texts from which expressions are put together elsewhere: characters without a
meaning of their own, quantifiers that no `?` follows, and the openings of groups.
-/

namespace PathRouter.Regex

/-- Whether `c` has a meaning of its own in an expression. -/
def isMeta (c : Char) : Bool :=
  ['\\', '.', '+', '*', '?', '(', ')', '|', '[', ']', '\x7b', '\x7d', '^', '$'].contains c

/-- The characters that may follow one another in a group's name. -/
def IsGroupName (name : List Char) : Prop :=
  ∃ c rest, name = c :: rest ∧ Token.isNameChar true c ∧ c ≠ '>' ∧
    ∀ d ∈ rest, Token.isNameChar false d ∧ d ≠ '>'

namespace Token

variable {f : Flags}

/-- Where white space counts, a character without a meaning of its own stands for itself. -/
theorem run_read_literal {c : Char} (hverbose : f.verbose = false) (hc : isMeta c = false)
    (rest : List Char) : (read f c).run rest = .ok (literal f c, rest) := by
  unfold read
  simp only [hverbose, Bool.false_and, Bool.false_eq_true, if_false]
  split
  case h_13 => rfl
  all_goals exact absurd hc (by decide)

/-! ## Quantifiers -/

/-- What follows a quantifier turns its preference round only if it starts with `?`. -/
theorem run_turnable {min : Nat} {max : Option Nat} {rest : List Char}
    (hrest : rest.head? ≠ some '?') :
    (turnable min max).run rest = .ok (.quantifier ⟨min, max, false⟩, rest) := by
  rw [turnable, Reader.run_bind_of_ok (Reader.run_accept_of_head? hrest)]
  rfl

theorem run_read_plus {rest : List Char} (hverbose : f.verbose = false)
    (hrest : rest.head? ≠ some '?') :
    (read f '+').run rest = .ok (.quantifier ⟨1, none, false⟩, rest) := by
  rw [read, hverbose]
  exact run_turnable hrest

theorem run_read_question {rest : List Char} (hverbose : f.verbose = false)
    (hrest : rest.head? ≠ some '?') :
    (read f '?').run rest = .ok (.quantifier ⟨0, some 1, false⟩, rest) := by
  rw [read, hverbose]
  exact run_turnable hrest

/-! ## Groups -/

/-- A parenthesis opens a group whatever the flags. -/
theorem read_openParenthesis (f : Flags) : read f '(' = openedGroup f := by
  rw [read, show Unicode.isSpace '(' = false by decide]
  simp

/-- What follows the parenthesis gives the group a name or a meaning of its own only if it starts
with `?`. -/
theorem run_read_openUnnamed {rest : List Char} (hverbose : f.verbose = false)
    (hrest : rest.head? ≠ some '?') :
    (read f '(').run rest = .ok (.openGroup (.capture none), rest) := by
  have hother (w : List Char) : ('?' :: w).isPrefixOf rest = false := by
    cases rest with
    | nil => rfl
    | cons c rest =>
      have hc : ('?' == c) = false := by
        simpa using fun heq => hrest (congrArg some heq.symm)
      rw [List.isPrefixOf_cons_cons, hc, Bool.false_and]
  have hlook : (Reader.oneOf lookaround).run rest = .ok (none, rest) := by
    simp [lookaround, Reader.run_oneOf_cons, hother]
  have hnamed : (Reader.oneOf namedGroup).run rest = .ok (none, rest) := by
    simp [namedGroup, Reader.run_oneOf_cons, hother]
  rw [read_openParenthesis, openedGroup, hverbose, Reader.run_bind_of_ok (Reader.run_blank _ _),
    skipBlank_false, Reader.run_bind_of_ok hlook]
  simp only [Option.isSome_none, Bool.false_eq_true, if_false]
  rw [Reader.run_bind_of_ok hnamed]
  simp only [Option.isSome_none, Bool.false_eq_true, if_false]
  rw [Reader.run_bind_of_ok (Reader.run_accept_of_head? hrest)]
  rfl

/-- The loop over the name of a group, behind its first character. -/
theorem run_groupName {name : List Char} (hname : IsGroupName name) (rest : List Char) :
    groupName.run (name ++ '>' :: rest) = .ok (String.ofList name, rest) := by
  obtain ⟨c, cs, rfl, hc, hc', hcs⟩ := hname
  rw [groupName]
  -- the characters read so far, latest first, are not none: a digit may follow them
  have hloop : ∀ (acc : List Char) (cs : List Char), acc ≠ [] →
      (∀ d ∈ cs, isNameChar false d ∧ d ≠ '>') →
      (Reader.loop (fun name c => do
        if c = '>' then return .inr name.reverse
        if isNameChar name.isEmpty c then return .inl (c :: name) else throw .invalidGroupName)
        (fun _ => .error .invalidGroupName) acc).run (cs ++ '>' :: rest) =
          .ok (acc.reverse ++ cs, rest) := by
    intro acc cs hacc hcs
    induction cs generalizing acc with
    | nil =>
      rw [List.nil_append, List.append_nil]
      exact Reader.run_loop_inr rfl
    | cons d cs ih =>
      obtain ⟨⟨hd, hd'⟩, hcs⟩ := List.forall_mem_cons.mp hcs
      have hempty : acc.isEmpty = false := by simpa using hacc
      rw [List.cons_append, Reader.run_loop_inl (t := d :: acc), ih _ (by simp) hcs]
      · simp
      · simp only [hempty, hd, hd', if_true, if_false]
        rfl
  have hfirst := hloop [c] cs (by simp) hcs
  rw [Reader.run_bind_of_ok (a := c :: cs)]
  · rfl
  · rw [List.cons_append, Reader.run_loop_inl (t := [c]), hfirst]
    · rfl
    · simp only [List.isEmpty_nil, hc, hc', if_true, if_false]
      rfl

/-- The opening of a named group is one token, whatever the flags. -/
theorem run_read_openNamed {name : List Char} (hname : IsGroupName name) (rest : List Char) :
    (read f '(').run ("?P<".toList ++ name ++ '>' :: rest) =
      .ok (.openGroup (.capture (some (String.ofList name))), rest) := by
  have hblank : (Reader.blank f.verbose).run ("?P<".toList ++ name ++ '>' :: rest) =
      .ok ((), "?P<".toList ++ name ++ '>' :: rest) := by
    rw [Reader.run_blank]
    rw [show skipBlank f.verbose ("?P<".toList ++ name ++ '>' :: rest) =
      "?P<".toList ++ name ++ '>' :: rest from skipBlank_cons (by decide) (by decide) _ _]
  -- with its `P` the text is none of those that look ahead or behind
  have hlook : (Reader.oneOf lookaround).run ("?P<".toList ++ name ++ '>' :: rest) =
      .ok (none, "?P<".toList ++ name ++ '>' :: rest) := by
    simp [lookaround, Reader.run_oneOf_cons]
  have hnamed : (Reader.oneOf namedGroup).run ("?P<".toList ++ name ++ '>' :: rest) =
      .ok (some (), name ++ '>' :: rest) := by
    simp [namedGroup, Reader.run_oneOf_cons]
  rw [read_openParenthesis, openedGroup, Reader.run_bind_of_ok hblank, Reader.run_bind_of_ok hlook]
  simp only [Option.isSome_none, Bool.false_eq_true, if_false]
  rw [Reader.run_bind_of_ok hnamed]
  simp only [Option.isSome_some, if_true]
  rw [Reader.run_bind_of_ok (run_groupName hname rest)]
  rfl

end Token

/-! ## Brackets -/

namespace Bracket

theorem leadingHyphens_cons {c : Char} (hc : c ≠ '-') (verbose : Bool)
    (rest : List Char) :
    leadingHyphens verbose (c :: rest) = ⟨0, c :: rest, List.suffix_rfl⟩ := by
  exact leadingHyphens.eq_2 verbose _ (by simp [hc])

/-- A bracket of which nothing has been read but its opening. -/
theorem run_openLevel {f : Flags} {c : Char} (hverbose : f.verbose = false) (hnegate : c ≠ '^')
    (hhyphen : c ≠ '-') (hclose : c ≠ ']') (rest : List Char) :
    (openLevel f).run (c :: rest) = .ok (⟨false, none, []⟩, c :: rest) := by
  have hnone : Reader.run (fun cs => .ok (leadingHyphens false cs)) (c :: rest) =
      .ok (0, c :: rest) := by
    simp [Reader.run, leadingHyphens_cons hhyphen, Except.map]
  rw [openLevel, hverbose, Reader.run_bind_of_ok (Reader.run_blank _ _), skipBlank_false,
    Reader.run_bind_of_ok (Reader.run_accept_other hnegate rest)]
  simp only [Bool.false_eq_true, if_false]
  rw [Reader.run_bind_of_ok hnone]
  simp only [if_true]
  rw [Reader.run_bind_of_ok (Reader.run_accept_other hclose rest)]
  rfl

end Bracket

end PathRouter.Regex
