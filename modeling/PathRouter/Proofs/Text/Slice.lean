import PathRouter.Proofs.Text.Utf8

/-!
# Slices of a text in bytes

A text in UTF-8 can be sliced at the boundaries of its characters, and only there: a slice with an
end elsewhere is none at all (`slice?`). The bytes of a text that stands in front of another one
reach up to a boundary (`isBoundary_encode`), so what stands in between two texts can be sliced out
(`slice?_encode`).
-/

namespace PathRouter.Text.Utf8

/-! ## The bytes of a character -/

/-- Either the one byte of ASCII, or a first byte and others that no character starts with. -/
theorem utf8EncodeChar_cases (c : Char) :
    (c.toNat < 0x80 ∧ String.utf8EncodeChar c = [UInt8.ofNat c.toNat]) ∨
      0x80 ≤ c.toNat ∧ ∃ first more, String.utf8EncodeChar c = first :: more ∧
        0xC0 ≤ first.toNat ∧ ∀ b ∈ more, 0x80 ≤ b.toNat := by
  have hvalid : c.toNat < 0xD800 ∨ 0xDFFF < c.toNat ∧ c.toNat < 0x110000 := c.valid
  have hval : c.val.toNat = c.toNat := rfl
  unfold String.utf8EncodeChar
  simp only [hval]
  generalize c.toNat = v at *
  have hmore (n : Nat) : 0x80 ≤ (UInt8.ofNat (n % 0x40 + 0x80)).toNat := by
    rw [toNat_ofNat (by omega)]
    omega
  have hfirst {n : Nat} (hlow : 0xC0 ≤ n) (hhigh : n < 0x100) : 0xC0 ≤ (UInt8.ofNat n).toNat := by
    rwa [toNat_ofNat hhigh]
  -- one byte, two, three or four
  split
  · exact .inl ⟨by omega, rfl⟩
  split
  · refine .inr ⟨by omega, _, _, rfl, hfirst (by omega) (by omega), ?_⟩
    simp only [List.forall_mem_cons, List.not_mem_nil, hmore, false_imp_iff, implies_true, and_self]
  split
  · refine .inr ⟨by omega, _, _, rfl, hfirst (by omega) (by omega), ?_⟩
    simp only [List.forall_mem_cons, List.not_mem_nil, hmore, false_imp_iff, implies_true, and_self]
  · refine .inr ⟨by omega, _, _, rfl, hfirst (by omega) (by omega), ?_⟩
    simp only [List.forall_mem_cons, List.not_mem_nil, hmore, false_imp_iff, implies_true, and_self]

theorem encode_append (s t : List Char) : encode (s ++ t) = encode s ++ encode t :=
  List.flatMap_append

theorem encode_cons (c : Char) (text : List Char) :
    encode (c :: text) = String.utf8EncodeChar c ++ encode text := List.flatMap_cons

/-! ## Boundaries -/

/-- Whether a character of the text starts at byte `i`, or the text ends there. -/
def isBoundary (text : List UInt8) (i : Nat) : Bool :=
  i = 0 || i = text.length || text[i]?.any fun b => b < 0x80 || 0xC0 ≤ b

/-- The bytes of the text from `start` up to `stop`, if no character is cut through. -/
def slice? (text : List UInt8) (start stop : Nat) : Option (List UInt8) :=
  if start ≤ stop ∧ isBoundary text start ∧ isBoundary text stop then
    some ((text.drop start).take (stop - start))
  else none

theorem isBoundary_encode (before after : List Char) :
    isBoundary (encode (before ++ after)) (encode before).length := by
  rw [encode_append]
  cases after with
  | nil => simp [isBoundary, encode]
  | cons c after =>
    have hbyte : (encode before ++ encode (c :: after))[(encode before).length]? =
        (String.utf8EncodeChar c ++ encode after)[0]? := by
      rw [encode_cons, List.getElem?_append_right (Nat.le_refl _), Nat.sub_self]
    unfold isBoundary
    rw [hbyte]
    rcases utf8EncodeChar_cases c with ⟨hc, hbytes⟩ | ⟨-, first, more, hbytes, hfirst, -⟩
    · have hsmall : UInt8.ofNat c.toNat < 0x80 := by
        rw [UInt8.lt_iff_toNat_lt, toNat_ofNat (by omega)]
        exact hc
      simp [hbytes, hsmall]
    · have hlarge : 0xC0 ≤ first := UInt8.le_iff_toNat_le.mpr hfirst
      simp [hbytes, hlarge]

/-- **What stands in between two texts can be sliced out.** -/
theorem slice?_encode (before text after : List Char) :
    slice? (encode (before ++ text ++ after)) (encode before).length
      (encode (before ++ text)).length = some (encode text) := by
  have hstart : isBoundary (encode (before ++ text ++ after)) (encode before).length := by
    rw [List.append_assoc]
    exact isBoundary_encode before (text ++ after)
  have hstop := isBoundary_encode (before ++ text) after
  have hlength :
      (encode (before ++ text)).length = (encode before).length + (encode text).length := by
    rw [encode_append, List.length_append]
  unfold slice?
  rw [if_pos ⟨by omega, hstart, hstop⟩, hlength, encode_append, encode_append, List.append_assoc,
    List.drop_left, Nat.add_sub_cancel_left, List.take_left]

end PathRouter.Text.Utf8
