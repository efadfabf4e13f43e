import PathRouter.Proofs.Text.Utf8
import PathRouter.Text.Percent

/-!
# Percent-encoded values are read back

How a value may be written in a path is a relation (`Writes`), for there is a choice at every byte:
an escape with digits of either case, the character itself if it is a letter, a digit, `_` or `-`,
and `+` for a space. Whatever is chosen, the value is read back (`decode_writes`). No other text
than the empty one is read as the empty value (`decode_eq_empty_iff`).
-/

namespace PathRouter.Text.Percent

/-! ## Ways to write bytes -/

/-- `c` is the hexadecimal digit of `n`, in either case. -/
def IsHexDigit (c : Char) (n : Nat) : Prop :=
  n < 16 ∧ (c = Nat.digitChar n ∨ c = (Nat.digitChar n).toUpper)

/-- Whether `c` may be written as itself. -/
def isUnreserved (c : Char) : Bool := c.isAlphanum || c = '_' || c = '-'

/-- `code` writes `bytes`. -/
inductive Writes : (bytes : List UInt8) → (code : List Char) → Prop where
  | nil : Writes [] []
  /-- Two hexadecimal digits. -/
  | escape {h l : Nat} {high low : Char} {bytes : List UInt8} {code : List Char}
      (hhigh : IsHexDigit high h) (hlow : IsHexDigit low l) (hrest : Writes bytes code) :
      Writes (UInt8.ofNat (h * 16 + l) :: bytes) ('%' :: high :: low :: code)
  /-- The character itself. -/
  | self {c : Char} {bytes : List UInt8} {code : List Char} (hc : isUnreserved c)
      (hrest : Writes bytes code) : Writes (UInt8.ofNat c.toNat :: bytes) (c :: code)
  /-- A space. -/
  | plus {bytes : List UInt8} {code : List Char} (hrest : Writes bytes code) :
      Writes (0x20 :: bytes) ('+' :: code)

/-! ## Characters of a code -/

/-- A digit is an ASCII character of its value. -/
theorem IsHexDigit.facts {c : Char} {n : Nat} (h : IsHexDigit c n) :
    c.toNat < 0x80 ∧ c ≠ '+' ∧ c.isAlphanum ∧
      hexValue? (UInt8.ofNat c.toNat) = some (UInt8.ofNat n) := by
  obtain ⟨hn, hc⟩ := h
  -- the digits one by one; deciding over all characters would not end
  have hdigits : ∀ n < 16, [Nat.digitChar n, (Nat.digitChar n).toUpper].all fun c =>
      c.toNat < 0x80 ∧ c ≠ '+' ∧ c.isAlphanum ∧
        hexValue? (UInt8.ofNat c.toNat) = some (UInt8.ofNat n) := by decide
  exact of_decide_eq_true (List.all_eq_true.mp (hdigits n hn) c (by simpa using hc))

theorem toNat_lt_of_isUnreserved {c : Char} (hc : isUnreserved c) : c.toNat < 0x80 := by
  have hupper : c.isUpper = decide (c.val ≥ 'A'.val ∧ c.val ≤ 'Z'.val) := rfl
  have hlower : c.isLower = (decide (c.val ≥ 'a'.val) && decide (c.val ≤ 'z'.val)) := rfl
  have halphanum : c.isAlphanum = (c.isUpper || c.isLower || c.isDigit) := rfl
  have hval : c.val.toNat = c.toNat := rfl
  simp only [isUnreserved, halphanum, hupper, hlower, Char.isDigit, Bool.or_eq_true,
    Bool.and_eq_true, decide_eq_true_eq, ge_iff_le, UInt32.le_iff_toNat_le, UInt32.reduceToNat,
    Char.reduceVal, hval] at hc
  rcases hc with (((hc | hc) | hc) | rfl) | rfl
  · omega
  · omega
  · omega
  · decide
  · decide

/-- A character of ASCII is one byte. -/
theorem encode_cons {c : Char} (hc : c.toNat < 0x80) (text : List Char) :
    Utf8.encode (c :: text) = UInt8.ofNat c.toNat :: Utf8.encode text := by
  have hchar : String.utf8EncodeChar c = [UInt8.ofNat c.toNat] := by
    unfold String.utf8EncodeChar
    exact if_pos (Nat.le_of_lt_succ hc)
  rw [Utf8.encode, List.flatMap_cons, hchar]
  rfl

/-- No other character of ASCII has the byte that escapes start with. -/
theorem ofNat_ne_percent {c : Char} (hc : c.toNat < 0x80) (hpercent : c ≠ '%') :
    UInt8.ofNat c.toNat ≠ 0x25 := by
  intro hbyte
  have hnat := congrArg UInt8.toNat hbyte
  rw [Utf8.toNat_ofNat (by omega)] at hnat
  exact hpercent (Char.ext (UInt32.toNat_inj.mp hnat))

theorem unescape_cons {b : UInt8} (hb : b ≠ 0x25) (rest : List UInt8) :
    unescape (b :: rest) = b :: unescape rest := by
  rw [unescape]
  exact fun _ _ _ hb' => absurd hb' hb

theorem unescape_escape {high low h l : UInt8} (hhigh : hexValue? high = some h)
    (hlow : hexValue? low = some l) (rest : List UInt8) :
    unescape (0x25 :: high :: low :: rest) = (h * 16 + l) :: unescape rest := by
  rw [unescape, escaped?, hhigh, hlow]

/-! ## Reading back -/

/-- An escape gives the byte that its digits name. -/
theorem unescape_encode_escape {high low : Char} {h l : Nat} (hhigh : IsHexDigit high h)
    (hlow : IsHexDigit low l) (code : List Char) :
    unescape (Utf8.encode (spaced ('%' :: high :: low :: code))) =
      UInt8.ofNat (h * 16 + l) :: unescape (Utf8.encode (spaced code)) := by
  obtain ⟨hhigh, hhigh', -, hvalue⟩ := hhigh.facts
  obtain ⟨hlow, hlow', -, hvalue'⟩ := hlow.facts
  have hspaced : spaced ('%' :: high :: low :: code) = '%' :: high :: low :: spaced code := by
    simp [spaced, hhigh', hlow']
  rw [hspaced, encode_cons (by decide), encode_cons hhigh, encode_cons hlow,
    show UInt8.ofNat '%'.toNat = 0x25 from rfl, unescape_escape hvalue hvalue']
  simp

/-- The escapes of a code give the bytes that it writes. -/
theorem unescape_writes {bytes : List UInt8} {code : List Char} (h : Writes bytes code) :
    unescape (Utf8.encode (spaced code)) = bytes := by
  induction h with
  | nil => rfl
  | @escape h l high low bytes code hhigh hlow _ ih =>
    rw [unescape_encode_escape hhigh hlow, ih]
  | @self c bytes code hc _ ih =>
    have hplus : c ≠ '+' := by
      rintro rfl
      exact absurd hc (by decide)
    -- an escape starts with `%` only, which is not unreserved
    have hpercent : c ≠ '%' := by
      rintro rfl
      exact absurd hc (by decide)
    have hbyte := ofNat_ne_percent (toNat_lt_of_isUnreserved hc) hpercent
    have hspaced : spaced (c :: code) = c :: spaced code := by simp [spaced, hplus]
    rw [hspaced, encode_cons (toNat_lt_of_isUnreserved hc), unescape_cons hbyte, ih]
  | @plus bytes code _ ih =>
    have hspaced : spaced ('+' :: code) = ' ' :: spaced code := rfl
    rw [hspaced, encode_cons (by decide), unescape_cons (by decide), ih]
    rfl

/-- A code without `%` and `+` is what it writes. -/
theorem encode_of_not_isCoded {bytes : List UInt8} {code : List Char} (h : Writes bytes code)
    (hcode : isCoded code = false) : Utf8.encode code = bytes := by
  induction h with
  | nil => rfl
  | escape => simp [isCoded] at hcode
  | @self c bytes code hc _ ih =>
    rw [encode_cons (toNat_lt_of_isUnreserved hc), ih]
    simp only [isCoded, List.any_cons, Bool.or_eq_false_iff] at hcode
    exact hcode.2
  | plus => simp [isCoded] at hcode

/-- **However a value is written, it is read back.** -/
theorem decode_writes {value code : List Char} (h : Writes (Utf8.encode value) code) :
    decode (String.ofList code) = String.ofList value := by
  rw [decode, String.toList_ofList]
  split
  · rw [decodeAll, unescape_writes h, Utf8.decode_encode]
  · -- a text that holds neither `%` nor `+` is passed on as it is
    next hcode => rw [Utf8.encode_inj (encode_of_not_isCoded h (by simpa using hcode))]

/-! ## Values that are empty -/

theorem unescape_eq_nil_iff {bytes : List UInt8} : unescape bytes = [] ↔ bytes = [] := by
  fun_cases unescape bytes <;> simp_all

/-- Only the empty text stands for the empty value. -/
theorem decode_eq_empty_iff {raw : String} : decode raw = "" ↔ raw = "" := by
  unfold decode
  split
  · have hnil : decodeAll raw.toList = [] ↔ raw.toList = [] := by
      rw [decodeAll, Utf8.decode_eq_nil_iff, unescape_eq_nil_iff]
      refine ⟨fun h => ?_, fun h => by rw [h]; rfl⟩
      have hspaced : spaced raw.toList = [] := Utf8.encode_inj h
      exact List.map_eq_nil_iff.mp hspaced
    rw [← String.toList_inj, String.toList_ofList]
    exact hnil.trans ⟨fun h => String.toList_inj.mp h, fun h => congrArg String.toList h⟩
  · exact Iff.rfl

end PathRouter.Text.Percent
