import PathRouter.Proofs.Text.Percent
import PathRouter.Proofs.Text.Slice

/-!
# Where a text holds no escape

An escape is a `%` with two digits behind it (`StartsEscape`). At any other place decoding keeps the
character (`decodeAll_cons`): a `%` that lacks a digit stands for itself, and of the bytes of other
characters none is the sign of an escape. So a text without an escape is its own value up to the
spaces (`decodeAll_eq_spaced`), and it does not show that a text without `%` and `+` is passed on
undecoded (`decode_eq`).
-/

namespace PathRouter.Text.Percent

/-! ## Bytes of signs and digits -/

/-- Only digits have a value. -/
theorem exists_isHexDigit {c : Char} (hc : c.toNat < 0x80) {v : UInt8}
    (h : hexValue? (UInt8.ofNat c.toNat) = some v) : ∃ n, IsHexDigit c n := by
  -- the characters of ASCII one by one
  have hascii : ∀ k < 0x80, hexValue? (UInt8.ofNat k) = none ∨ ∃ n < 16,
      Char.ofNat k = Nat.digitChar n ∨ Char.ofNat k = (Nat.digitChar n).toUpper := by
    decide +kernel
  rcases hascii c.toNat hc with hnone | ⟨n, hn, hdigit⟩
  · rw [hnone] at h
    cases h
  · rw [Char.ofNat_toNat] at hdigit
    exact ⟨n, hn, hdigit⟩

/-- A character of ASCII is one byte; the bytes of all others are beyond ASCII. -/
theorem forall_mem_utf8EncodeChar {P : UInt8 → Prop} {c : Char}
    (hascii : c.toNat < 0x80 → P (UInt8.ofNat c.toNat)) (hbeyond : ∀ b, 0x80 ≤ b.toNat → P b) :
    ∀ b ∈ String.utf8EncodeChar c, P b := by
  intro b hb
  rcases Utf8.utf8EncodeChar_cases c with ⟨hc, hbytes⟩ | ⟨-, first, more, hbytes, hfirst, hmore⟩
  · rw [hbytes, List.mem_singleton] at hb
    exact hb ▸ hascii hc
  · rw [hbytes] at hb
    rcases List.mem_cons.mp hb with rfl | hb
    · exact hbeyond _ (by omega)
    · exact hbeyond b (hmore b hb)

theorem ne_percent_of_le {b : UInt8} (hb : 0x80 ≤ b.toNat) : b ≠ 0x25 := by
  rintro rfl
  exact absurd hb (by decide)

theorem hexValue?_eq_none_of_le {b : UInt8} (hb : 0x80 ≤ b.toNat) : hexValue? b = none := by
  simp only [hexValue?, UInt8.le_iff_toNat_le, UInt8.reduceToNat]
  rw [if_neg (by omega), if_neg (by omega), if_neg (by omega)]

theorem spaced_cons (c : Char) (raw : List Char) :
    spaced (c :: raw) = (if c = '+' then ' ' else c) :: spaced raw := rfl

/-- A digit among the bytes is a digit of the text: no byte of a longer character is one, nor is the
space that a `+` stands for. -/
theorem exists_of_encode_spaced_eq {raw : List Char} {b v : UInt8} {bytes : List UInt8}
    (hraw : Utf8.encode (spaced raw) = b :: bytes) (hb : hexValue? b = some v) :
    ∃ c rest n, raw = c :: rest ∧ IsHexDigit c n ∧ Utf8.encode (spaced rest) = bytes := by
  cases raw with
  | nil => cases hraw
  | cons c rest =>
    rw [spaced_cons, Utf8.encode_cons] at hraw
    rcases Utf8.utf8EncodeChar_cases (if c = '+' then ' ' else c) with
      ⟨hascii, hbytes⟩ | ⟨-, first, more, hbytes, hfirst, -⟩
    · rw [hbytes] at hraw
      obtain ⟨rfl, hrest⟩ := List.cons.inj hraw
      obtain ⟨n, hn⟩ := exists_isHexDigit hascii hb
      refine ⟨c, rest, n, rfl, ?_, hrest⟩
      split at hn
      · exact absurd hn.facts.2.2.1 (by decide)
      · exact hn
    · rw [hbytes] at hraw
      obtain ⟨rfl, -⟩ := List.cons.inj hraw
      rw [hexValue?_eq_none_of_le (by omega)] at hb
      cases hb

/-! ## Unescaping -/

/-- A sign that no two digits follow stands for itself. -/
theorem unescape_percent {bytes : List UInt8}
    (h : ∀ high low rest, bytes = high :: low :: rest → escaped? high low = none) :
    unescape (0x25 :: bytes) = 0x25 :: unescape bytes := by
  match bytes, h with
  | [], _ => rfl
  | [_], _ => rfl
  | high :: low :: rest, h => rw [unescape, h high low rest rfl]

/-- Bytes without the sign of an escape stand for themselves. -/
theorem unescape_append_left {bytes : List UInt8} (hbytes : ∀ b ∈ bytes, b ≠ 0x25)
    (rest : List UInt8) : unescape (bytes ++ rest) = bytes ++ unescape rest := by
  induction bytes with
  | nil => rfl
  | cons b bytes ih =>
    obtain ⟨hb, hbytes⟩ := List.forall_mem_cons.mp hbytes
    rw [List.cons_append, unescape_cons hb, ih hbytes, List.cons_append]

theorem exists_of_escaped?_eq_some {high low b : UInt8} (h : escaped? high low = some b) :
    ∃ v w, hexValue? high = some v ∧ hexValue? low = some w := by
  unfold escaped? at h
  split at h
  · next v w hhigh hlow => exact ⟨v, w, hhigh, hlow⟩
  · cases h

/-! ## Texts that hold no escape -/

/-- The text starts with an escape: a sign and two digits. -/
def StartsEscape (raw : List Char) : Prop :=
  ∃ high low h l rest, IsHexDigit high h ∧ IsHexDigit low l ∧ raw = '%' :: high :: low :: rest

/-- Some rest of the text starts with an escape. -/
def HoldsEscape (raw : List Char) : Prop := ∃ rest, rest <:+ raw ∧ StartsEscape rest

theorem holdsEscape_cons_iff {c : Char} {raw : List Char} :
    HoldsEscape (c :: raw) ↔ StartsEscape (c :: raw) ∨ HoldsEscape raw := by
  simp only [HoldsEscape, List.suffix_cons_iff, or_and_right, exists_or, exists_eq_left]

theorem mem_of_holdsEscape {raw : List Char} (h : HoldsEscape raw) : '%' ∈ raw := by
  obtain ⟨rest, hrest, high, low, h, l, later, -, -, rfl⟩ := h
  exact hrest.subset List.mem_cons_self

/-- A sign in a text that starts no escape there has no two digits behind it among the bytes
either. -/
theorem unescape_encode_percent {raw : List Char} (h : ¬ StartsEscape ('%' :: raw)) :
    unescape (0x25 :: Utf8.encode (spaced raw)) =
      0x25 :: unescape (Utf8.encode (spaced raw)) := by
  refine unescape_percent fun high low bytes hraw => Option.eq_none_iff_forall_ne_some.mpr ?_
  intro b hb
  obtain ⟨v, w, hhigh, hlow⟩ := exists_of_escaped?_eq_some hb
  obtain ⟨c, rest, n, rfl, hn, hrest⟩ := exists_of_encode_spaced_eq hraw hhigh
  obtain ⟨d, later, m, rfl, hm, -⟩ := exists_of_encode_spaced_eq hrest hlow
  exact h ⟨c, d, n, m, later, hn, hm, rfl⟩

/-- **A character that starts no escape stands for itself**, or for a space if it is `+`. -/
theorem decodeAll_cons {c : Char} {raw : List Char} (h : ¬ StartsEscape (c :: raw)) :
    decodeAll (c :: raw) = (if c = '+' then ' ' else c) :: decodeAll raw := by
  have hunescape : unescape (Utf8.encode (spaced (c :: raw))) =
      String.utf8EncodeChar (if c = '+' then ' ' else c) ++
        unescape (Utf8.encode (spaced raw)) := by
    rw [spaced_cons, Utf8.encode_cons]
    by_cases hc : c = '%'
    · subst hc
      exact unescape_encode_percent h
    · have hsign : (if c = '+' then ' ' else c) ≠ '%' := by
        split
        · decide
        · exact hc
      exact unescape_append_left (forall_mem_utf8EncodeChar
        (fun hascii => ofNat_ne_percent hascii hsign) fun _ => ne_percent_of_le) _
  rw [decodeAll, hunescape, Utf8.decode, Utf8.decodeFrom_utf8EncodeChar]
  rfl

/-- A text that holds no escape keeps all its characters but the signs for spaces. -/
theorem decodeAll_eq_spaced {raw : List Char} (h : ¬ HoldsEscape raw) :
    decodeAll raw = spaced raw := by
  induction raw with
  | nil => rfl
  | cons c raw ih =>
    obtain ⟨hhere, hlater⟩ := not_or.mp (mt holdsEscape_cons_iff.mpr h)
    rw [decodeAll_cons hhere, ih hlater, spaced_cons]

theorem spaced_eq_self_iff {raw : List Char} : spaced raw = raw ↔ '+' ∉ raw := by
  constructor
  · intro hraw hplus
    rw [← hraw] at hplus
    obtain ⟨c, -, hc⟩ := List.mem_map.mp hplus
    split at hc
    · exact absurd hc (by decide)
    · next hne => exact hne hc
  · intro hplus
    exact (List.map_congr_left fun c hc => if_neg (ne_of_mem_of_not_mem hc hplus)).trans
      (List.map_id raw)

theorem isCoded_eq_false_iff {raw : List Char} :
    isCoded raw = false ↔ '%' ∉ raw ∧ '+' ∉ raw := by
  simp [isCoded, not_or, forall_and, List.forall_mem_ne']

/-- A text that is passed on as it is would be decoded to itself. -/
theorem decodeAll_of_not_isCoded {raw : List Char} (h : isCoded raw = false) :
    decodeAll raw = raw := by
  obtain ⟨hpercent, hplus⟩ := isCoded_eq_false_iff.mp h
  rw [decodeAll_eq_spaced (mt mem_of_holdsEscape hpercent), spaced_eq_self_iff.mpr hplus]

theorem decode_eq (raw : String) : decode raw = String.ofList (decodeAll raw.toList) := by
  unfold decode
  split
  · rfl
  · next hcode =>
    rw [decodeAll_of_not_isCoded (by simpa using hcode), String.ofList_toList]

end PathRouter.Text.Percent
