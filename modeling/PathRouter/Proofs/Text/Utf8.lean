import PathRouter.Text.Utf8

/-!
# UTF-8 is read back

The machine reads every text back from its bytes (`decode_encode`). One lemma says what the machine
does with each kind of byte, the first of a character or one that is owed; the bytes of a character
are then four cases, by how many there are. Bytes that no text has are repaired and never dropped
altogether (`decode_eq_nil_iff`).
-/

namespace PathRouter.Text.Utf8

/-! ## One byte -/

section Bytes

variable {b value more low high : Nat} {rest : List UInt8}

theorem toNat_ofNat (hb : b < 0x100) : (UInt8.ofNat b).toNat = b := UInt8.toNat_ofNat_of_lt' hb

/-- A byte of its own. -/
theorem decodeFrom_one (hb : b < 0x80) :
    decodeFrom none (UInt8.ofNat b :: rest) = Char.ofNat b :: decodeFrom none rest := by
  have hbyte : (UInt8.ofNat b).toNat = b := toNat_ofNat (by omega)
  simp [decodeFrom, step, begin, lead, hbyte, hb]

/-- The first byte of two. -/
theorem decodeFrom_two (hb : 0xC2 ≤ b) (hb' : b < 0xE0) :
    decodeFrom none (UInt8.ofNat b :: rest) =
      decodeFrom (some ⟨b - 0xC0, 0, 0x80, 0xBF⟩) rest := by
  have hbyte : (UInt8.ofNat b).toNat = b := toNat_ofNat (by omega)
  simp only [decodeFrom, step, begin, lead, hbyte]
  rw [if_neg (by omega), if_neg (by omega), if_pos hb']
  rfl

/-- The first byte of three. -/
theorem decodeFrom_three (hb : 0xE0 ≤ b) (hb' : b < 0xF0) :
    decodeFrom none (UInt8.ofNat b :: rest) =
      decodeFrom (some ⟨b - 0xE0, 1, if b = 0xE0 then 0xA0 else 0x80,
        if b = 0xED then 0x9F else 0xBF⟩) rest := by
  have hbyte : (UInt8.ofNat b).toNat = b := toNat_ofNat (by omega)
  simp only [decodeFrom, step, begin, lead, hbyte]
  rw [if_neg (by omega), if_neg (by omega), if_neg (by omega), if_pos hb']
  rfl

/-- The first byte of four. -/
theorem decodeFrom_four (hb : 0xF0 ≤ b) (hb' : b < 0xF5) :
    decodeFrom none (UInt8.ofNat b :: rest) =
      decodeFrom (some ⟨b - 0xF0, 2, if b = 0xF0 then 0x90 else 0x80,
        if b = 0xF4 then 0x8F else 0xBF⟩) rest := by
  have hbyte : (UInt8.ofNat b).toNat = b := toNat_ofNat (by omega)
  simp only [decodeFrom, step, begin, lead, hbyte]
  rw [if_neg (by omega), if_neg (by omega), if_neg (by omega), if_neg (by omega), if_pos hb']
  rfl

/-- A byte that is owed, with more to come. -/
theorem decodeFrom_more (hlow : low ≤ b) (hhigh : b ≤ high) (hb : b < 0x100) :
    decodeFrom (some ⟨value, more + 1, low, high⟩) (UInt8.ofNat b :: rest) =
      decodeFrom (some ⟨value * 64 + (b - 0x80), more, 0x80, 0xBF⟩) rest := by
  have hbyte : (UInt8.ofNat b).toNat = b := toNat_ofNat hb
  simp [decodeFrom, step, hbyte, hlow, hhigh]

/-- The last byte that is owed. -/
theorem decodeFrom_last (hlow : low ≤ b) (hhigh : b ≤ high) (hb : b < 0x100) :
    decodeFrom (some ⟨value, 0, low, high⟩) (UInt8.ofNat b :: rest) =
      Char.ofNat (value * 64 + (b - 0x80)) :: decodeFrom none rest := by
  have hbyte : (UInt8.ofNat b).toNat = b := toNat_ofNat hb
  simp [decodeFrom, step, hbyte, hlow, hhigh]

end Bytes

/-! ## One character and a text -/

/-- The bytes of a character are read as that character. -/
theorem decodeFrom_utf8EncodeChar (c : Char) (rest : List UInt8) :
    decodeFrom none (String.utf8EncodeChar c ++ rest) = c :: decodeFrom none rest := by
  have hread {n : Nat} (hn : n = c.toNat) : Char.ofNat n :: decodeFrom none rest =
      c :: decodeFrom none rest := by
    rw [hn, Char.ofNat_toNat]
  have hvalid : c.toNat < 0xD800 ∨ 0xDFFF < c.toNat ∧ c.toNat < 0x110000 := c.valid
  have hval : c.val.toNat = c.toNat := rfl
  unfold String.utf8EncodeChar
  simp only [hval]
  -- from here on numbers: the bounds of `hvalid` keep each byte in the range that the machine takes
  generalize c.toNat = v at *
  split
  · rw [List.singleton_append, decodeFrom_one (by omega)]
    exact hread rfl
  split
  · simp only [List.cons_append, List.nil_append]
    rw [decodeFrom_two (by omega) (by omega), decodeFrom_last (by omega) (by omega) (by omega)]
    exact hread (by omega)
  split
  · simp only [List.cons_append, List.nil_append]
    rw [decodeFrom_three (by omega) (by omega),
      decodeFrom_more (by split <;> omega) (by split <;> omega) (by omega),
      decodeFrom_last (by omega) (by omega) (by omega)]
    exact hread (by omega)
  · simp only [List.cons_append, List.nil_append]
    rw [decodeFrom_four (by omega) (by omega),
      decodeFrom_more (by split <;> omega) (by split <;> omega) (by omega),
      decodeFrom_more (by omega) (by omega) (by omega),
      decodeFrom_last (by omega) (by omega) (by omega)]
    exact hread (by omega)

/-- **Every text is read back from its bytes.** -/
theorem decode_encode (text : List Char) : decode (encode text) = text := by
  induction text with
  | nil => rfl
  | cons c text ih =>
    rw [encode, List.flatMap_cons, decode, decodeFrom_utf8EncodeChar]
    exact congrArg (c :: ·) ih

theorem encode_inj {s t : List Char} (h : encode s = encode t) : s = t := by
  rw [← decode_encode s, h, decode_encode]

/-! ## No text from no bytes only -/

/-- A character of which bytes have been read is written, or a replacement for it. -/
theorem decodeFrom_some_ne_nil (p : Pending) (bytes : List UInt8) :
    decodeFrom (some p) bytes ≠ [] := by
  induction bytes generalizing p with
  | nil => exact List.cons_ne_nil _ _
  | cons b rest ih =>
    rw [decodeFrom, step]
    by_cases hb : p.low ≤ b.toNat ∧ b.toNat ≤ p.high
    · rw [if_pos hb]
      cases p.more with
      | zero => exact List.cons_ne_nil _ _
      | succ more => exact ih _
    · rw [if_neg hb]
      exact List.cons_ne_nil _ _

theorem decode_eq_nil_iff {bytes : List UInt8} : decode bytes = [] ↔ bytes = [] := by
  refine ⟨fun h => ?_, fun h => by rw [h]; rfl⟩
  cases bytes with
  | nil => rfl
  | cons b rest =>
    rw [decode, decodeFrom, step, begin] at h
    cases hlead : lead b.toNat with
    | complete c =>
      rw [hlead] at h
      cases h
    | start p =>
      rw [hlead] at h
      exact absurd h (decodeFrom_some_ne_nil p rest)
    | invalid =>
      rw [hlead] at h
      cases h

end PathRouter.Text.Utf8
