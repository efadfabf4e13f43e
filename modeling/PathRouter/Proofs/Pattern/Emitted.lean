import PathRouter.Pattern.Basic
import PathRouter.Proofs.Regex.Tokens

/-!
# What a pattern adds to its source

A pattern turns each capture into a named group. The names of these groups differ
(`groupName_inj`) and can be read wherever a group may open (`run_read_groupText`); what stands in
a group for a capture without a condition matches a run of `isCaptureChar`.
-/

namespace PathRouter

open Regex

theorem Regex.CharSet.contains_single (c d : Char) :
    (CharSet.single c).contains d = decide (d = c) := by
  simp only [CharSet.single, CharSet.contains, ← Bool.decide_and, decide_eq_decide]
  exact ⟨fun ⟨h, h'⟩ => Char.le_antisymm h' h, fun h => h ▸ ⟨Char.le_refl _, Char.le_refl _⟩⟩

theorem Regex.CharSet.contains_union (s t : CharSet) (c : Char) :
    (CharSet.union s t).contains c = (s.contains c || t.contains c) := rfl

namespace Pattern

/-! ## The names of groups -/

theorem groupName_inj {i j : Nat} : groupName i = groupName j ↔ i = j := by
  refine ⟨fun h => ?_, congrArg groupName⟩
  have hdigits : Nat.toDigits 10 i = Nat.toDigits 10 j := by
    simpa [groupName, ← String.toList_inj] using h
  rw [← Nat.ofDigitChars_toDigits (b := 10) (n := i) (by decide) (by decide), hdigits,
    Nat.ofDigitChars_toDigits (by decide) (by decide)]

theorem toList_groupName (i : Nat) : (groupName i).toList = "__p".toList ++ Nat.toDigits 10 i := by
  simp [groupName]

/-- A digit may stand in the name of a group. -/
theorem isNameChar_of_isDigit {c : Char} (hc : c.isDigit) :
    Token.isNameChar false c ∧ c ≠ '>' := by
  have hrange : 0x30 ≤ c.toNat ∧ c.toNat ≤ 0x39 := by
    simpa [Char.isDigit, UInt32.le_iff_toNat_le] using hc
  have hnumber : Unicode.isNumber c = true := by
    show Unicode.RangeTable.inRanges c.toNat ((0x30, 0x39) :: _) = true
    rw [Unicode.RangeTable.inRanges, if_neg (by omega), decide_eq_true hrange.2, Bool.true_or]
  refine ⟨by simp [Token.isNameChar, hnumber], ?_⟩
  rintro rfl
  exact absurd hc (by decide)

theorem isGroupName_groupName (i : Nat) : IsGroupName (groupName i).toList := by
  refine ⟨'_', "_p".toList ++ Nat.toDigits 10 i, toList_groupName i, by decide, by decide, ?_⟩
  intro d hd
  rcases List.mem_append.mp hd with hd | hd
  · have hd : d = '_' ∨ d = 'p' := by simpa using hd
    rcases hd with rfl | rfl <;> decide
  · exact isNameChar_of_isDigit (Nat.isDigit_of_mem_toDigits (by decide) (by decide) hd)

theorem groupText_eq (i : Nat) (inner : String) :
    groupText i inner =
      '(' :: ("?P<".toList ++ (groupName i).toList ++ '>' :: inner.toList ++ [')']) := by
  delta groupText
  simp

/-- The group of a capture opens with one token, whatever the flags. -/
theorem run_read_groupText (f : Flags) (i : Nat) (inner : String) (rest : List Char) :
    ∃ tail, groupText i inner ++ rest = '(' :: tail ∧
      (Token.read f '(').run tail =
        .ok (.openGroup (.capture (some (groupName i))), inner.toList ++ ')' :: rest) := by
  refine ⟨"?P<".toList ++ (groupName i).toList ++ '>' :: (inner.toList ++ ')' :: rest), ?_, ?_⟩
  · simp [groupText_eq]
  · rw [Token.run_read_openNamed (isGroupName_groupName i), String.ofList_toList]

/-! ## The default capture -/

/-- Whether `c` may stand in the value of a capture that has no condition. -/
def isCaptureChar (c : Char) : Bool := c.isAlphanum || c = '_' || c = '+' || c = '-' || c = '%'

/-- The class of a capture that has no condition. -/
def captureSet : CharSet :=
  .unions [.range 'a' 'z', .range 'A' 'Z', .range '0' '9', .single '_', .single '+', .single '-',
    .single '%']

theorem contains_captureSet (c : Char) : captureSet.contains c = isCaptureChar c := by
  have hlower : (CharSet.range 'a' 'z').contains c = c.isLower := rfl
  have hupper : (CharSet.range 'A' 'Z').contains c = c.isUpper :=
    (Bool.decide_and _ _).symm
  have hdigit : (CharSet.range '0' '9').contains c = c.isDigit := rfl
  have halphanum : c.isAlphanum = (c.isUpper || c.isLower || c.isDigit) := rfl
  simp only [captureSet, CharSet.unions, CharSet.contains_union, hlower, hupper, hdigit,
    CharSet.contains_single, isCaptureChar, halphanum, Bool.or_assoc]
  exact Bool.or_left_comm _ _ _

/-- The class is read as one part, whatever follows. -/
theorem run_bracket_captureSet (rest : List Char) :
    (Bracket.read {}).run ("a-zA-Z0-9_\\+\\-%]".toList ++ rest) = .ok (⟨captureSet, 2⟩, rest) := by
  -- one round of the loop for each range, character and escape of the class
  have htext : "a-zA-Z0-9_\\+\\-%]".toList ++ rest = 'a' :: '-' :: 'z' :: 'A' :: '-' :: 'Z' ::
      '0' :: '-' :: '9' :: '_' :: '\\' :: '+' :: '\\' :: '-' :: '%' :: ']' :: rest := rfl
  have hlower (s : Bracket.State) (rest : List Char) :
      (Bracket.step {} s 'a').run ('-' :: 'z' :: rest) =
        .ok (.inl { s with level := s.level.add ⟨.range 'a' 'z', 0⟩ }, rest) := rfl
  have hupper (s : Bracket.State) (rest : List Char) :
      (Bracket.step {} s 'A').run ('-' :: 'Z' :: rest) =
        .ok (.inl { s with level := s.level.add ⟨.range 'A' 'Z', 0⟩ }, rest) := rfl
  have hdigit (s : Bracket.State) (rest : List Char) :
      (Bracket.step {} s '0').run ('-' :: '9' :: rest) =
        .ok (.inl { s with level := s.level.add ⟨.range '0' '9', 0⟩ }, rest) := rfl
  have hunderscore (s : Bracket.State) (rest : List Char) :
      (Bracket.step {} s '_').run ('\\' :: rest) =
        .ok (.inl { s with level := s.level.add ⟨.single '_', 0⟩ }, '\\' :: rest) := rfl
  have hplus (s : Bracket.State) (rest : List Char) :
      (Bracket.step {} s '\\').run ('+' :: '\\' :: rest) =
        .ok (.inl { s with level := s.level.add ⟨.single '+', 0⟩ }, '\\' :: rest) := rfl
  have hhyphen (s : Bracket.State) (rest : List Char) :
      (Bracket.step {} s '\\').run ('-' :: '%' :: rest) =
        .ok (.inl { s with level := s.level.add ⟨.single '-', 0⟩ }, '%' :: rest) := rfl
  have hpercent (s : Bracket.State) (rest : List Char) :
      (Bracket.step {} s '%').run (']' :: rest) =
        .ok (.inl { s with level := s.level.add ⟨.single '%', 0⟩ }, ']' :: rest) := rfl
  rw [htext, Bracket.read,
    Reader.run_bind_of_ok (Bracket.run_openLevel rfl (by decide) (by decide) (by decide) _),
    Reader.run_loop_inl (hlower _ _),
    Reader.run_loop_inl (hupper _ _), Reader.run_loop_inl (hdigit _ _),
    Reader.run_loop_inl (hunderscore _ _), Reader.run_loop_inl (hplus _ _),
    Reader.run_loop_inl (hhyphen _ _), Reader.run_loop_inl (hpercent _ _)]
  exact Reader.run_loop_inr rfl

end Pattern

end PathRouter
