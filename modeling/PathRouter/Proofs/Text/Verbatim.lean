import PathRouter.Proofs.Text.Locality

/-!
# Texts that stand for themselves

A text without `%` and `+` is passed on undecoded. That does not show, for decoding it in full would
give it back (`decode_inFull`). Some other texts stand for themselves as well, such as one with a
`%` that lacks a digit; but none with a `+`, and none with an escape, since the three characters of
an escape give one at most. What a byte adds to the text of the bytes behind it is no more than one
character, even where it leaves the machine with a character pending (`length_decode_cons_le`).

* `length_decodeAll_le_length`: a value has no more characters than its text.
* `length_decodeAll_lt_length`: it has fewer if the text holds an escape.
* `decodeAll_eq_self_iff`: which texts decoding in full gives back.
-/

namespace PathRouter.Text

namespace Utf8

/-- A character that is pending adds one character at most to the bytes behind it. -/
theorem length_decodeFrom_some_le {p : Pending} (hp : p.IsProper) (bytes : List UInt8) :
    (decodeFrom (some p) bytes).length ≤ (decodeFrom none bytes).length + 1 := by
  induction bytes generalizing p with
  | nil => exact Nat.le_refl 1
  | cons b rest ih =>
    obtain ⟨hlow, hhigh⟩ := hp
    by_cases hb : p.low ≤ b.toNat ∧ b.toNat ≤ p.high
    · -- a byte that is owed to another is replaced where it stands alone
      have halone : step none b.toNat = ([replacement], none) := by
        rw [step, begin, lead, if_neg (by omega), if_pos (by omega)]
      rw [decodeFrom_cons, decodeFrom_cons, halone, step, if_pos hb]
      cases p.more with
      | zero => simp
      | succ more =>
        have hrest := @ih ⟨p.value * 64 + (b.toNat - 0x80), more, 0x80, 0xBF⟩
          ⟨Nat.le_refl _, Nat.le_refl _⟩
        simp only [List.nil_append, List.singleton_append, List.length_cons]
        omega
    · have hgiven : decodeFrom (some p) (b :: rest) =
          replacement :: decodeFrom none (b :: rest) := by
        rw [decodeFrom_cons, step, if_neg hb]
        rfl
      exact Nat.le_of_eq (congrArg List.length hgiven)

/-- A byte adds one character at most to those behind it. -/
theorem length_decode_cons_le (b : UInt8) (bytes : List UInt8) :
    (decode (b :: bytes)).length ≤ (decode bytes).length + 1 := by
  rw [decode, decodeFrom_cons, step, begin]
  cases hlead : lead b.toNat with
  | complete c => exact Nat.le_refl _
  | start p => exact length_decodeFrom_some_le (isProper_of_lead hlead) bytes
  | invalid => exact Nat.le_refl _

end Utf8

namespace Percent

/-! ## Characters of a value -/

/-- An escape is one character of the value at most. -/
theorem length_decodeAll_escape_le {high low : Char} {h l : Nat} (hhigh : IsHexDigit high h)
    (hlow : IsHexDigit low l) (rest : List Char) :
    (decodeAll ('%' :: high :: low :: rest)).length ≤ (decodeAll rest).length + 1 := by
  rw [decodeAll, unescape_encode_escape hhigh hlow]
  exact Utf8.length_decode_cons_le _ _

theorem length_decodeAll_le_length (raw : List Char) : (decodeAll raw).length ≤ raw.length := by
  -- on the length, for an escape takes three characters at once
  induction hn : raw.length using Nat.strongRecOn generalizing raw with
  | ind n ih =>
  cases raw with
  | nil => exact Nat.zero_le n
  | cons c raw =>
    by_cases hstart : StartsEscape (c :: raw)
    · obtain ⟨high, low, h, l, rest, hhigh, hlow, heq⟩ := hstart
      have hescape := length_decodeAll_escape_le hhigh hlow rest
      rw [heq] at hn ⊢
      simp only [List.length_cons] at hn
      have hrest := ih rest.length (by omega) rest rfl
      omega
    · rw [List.length_cons] at hn
      have hraw := ih raw.length (by omega) raw rfl
      rw [decodeAll_cons hstart, List.length_cons]
      omega

/-- A value has fewer characters than a text that holds an escape. -/
theorem length_decodeAll_lt_length {raw : List Char} (h : HoldsEscape raw) :
    (decodeAll raw).length < raw.length := by
  induction raw with
  | nil => exact absurd (mem_of_holdsEscape h) List.not_mem_nil
  | cons c raw ih =>
    by_cases hstart : StartsEscape (c :: raw)
    · obtain ⟨high, low, h, l, rest, hhigh, hlow, heq⟩ := hstart
      have hescape := length_decodeAll_escape_le hhigh hlow rest
      have hrest := length_decodeAll_le_length rest
      rw [heq]
      simp only [List.length_cons]
      omega
    · have hlater := (holdsEscape_cons_iff.mp h).resolve_left hstart
      rw [decodeAll_cons hstart, List.length_cons, List.length_cons]
      exact Nat.succ_lt_succ (ih hlater)

/-- Which texts decoding in full gives back. -/
theorem decodeAll_eq_self_iff {raw : List Char} :
    decodeAll raw = raw ↔ '+' ∉ raw ∧ ¬ HoldsEscape raw := by
  constructor
  · intro hraw
    have hescape : ¬ HoldsEscape raw := fun h =>
      absurd (congrArg List.length hraw) (Nat.ne_of_lt (length_decodeAll_lt_length h))
    rw [decodeAll_eq_spaced hescape] at hraw
    exact ⟨spaced_eq_self_iff.mp hraw, hescape⟩
  · rintro ⟨hplus, hescape⟩
    rw [decodeAll_eq_spaced hescape, spaced_eq_self_iff.mpr hplus]

/-- **The shortcut does not show.** Decoding in full gives back every text without `%` and `+`, so
the value of any text is the one in full, whether or not it was decoded. The texts that stand for
themselves are more than those that are passed on: they are all that hold no `+` and no escape. -/
theorem decode_inFull (raw : String) :
    ('%' ∉ raw.toList ∧ '+' ∉ raw.toList → String.ofList (decodeAll raw.toList) = raw) ∧
      decode raw = String.ofList (decodeAll raw.toList) ∧
      (decode raw = raw ↔ '+' ∉ raw.toList ∧ ¬ HoldsEscape raw.toList) := by
  refine ⟨?_, decode_eq raw, ?_⟩
  · intro hplain
    rw [decodeAll_of_not_isCoded (isCoded_eq_false_iff.mpr hplain), String.ofList_toList]
  · calc decode raw = raw
        ↔ decodeAll raw.toList = raw.toList := by
          rw [decode_eq, ← String.toList_inj, String.toList_ofList]
      _ ↔ '+' ∉ raw.toList ∧ ¬ HoldsEscape raw.toList := decodeAll_eq_self_iff

/-- Characters of one, two, three and four bytes. -/
theorem decodeAll_ofScripts :
    ('%' ∉ "/aé€😀".toList ∧ '+' ∉ "/aé€😀".toList) ∧
      String.ofList (decodeAll "/aé€😀".toList) = "/aé€😀" :=
  ⟨by decide, (decode_inFull "/aé€😀").1 (by decide)⟩

/-- A sign that lacks a digit is decoded, and yet stands for itself. -/
example : decode "100%4 €" = "100%4 €" := by decide +kernel

end Percent

end PathRouter.Text
