import PathRouter.Proofs.Text.Escape

/-!
# Decoding is local

A value is decoded in three passes over the whole text: spaces, escapes, and bytes that are read as
UTF-8. None of them sees across a character that cannot be part of an escape. An escape that is cut
short there stays as it is (`unescape_append`), and a character whose bytes are cut short there is
given up, for no byte that starts a character continues another one (`decodeFrom_append`).

* `decode_append_char` and `decodeAll_append` are the seams of bytes and of texts.
* `decode_append_seam`: the text before such a character and the text behind it are decoded as if
  each stood alone.
-/

namespace PathRouter.Text

/-! ## Bytes that start a character -/

namespace Utf8

/-- The bytes that may come next are among those that start no character. -/
def Pending.IsProper (p : Pending) : Prop := 0x80 ≤ p.low ∧ p.high ≤ 0xBF

theorem isProper_of_lead {b : Nat} {p : Pending} (h : lead b = .start p) : p.IsProper := by
  unfold lead at h
  split at h
  · cases h
  split at h
  · cases h
  split at h
  · obtain rfl := Lead.start.inj h
    simp [Pending.IsProper]
  split at h
  · obtain rfl := Lead.start.inj h
    refine ⟨?_, ?_⟩
    · dsimp only
      split <;> omega
    · dsimp only
      split <;> omega
  split at h
  · obtain rfl := Lead.start.inj h
    refine ⟨?_, ?_⟩
    · dsimp only
      split <;> omega
    · dsimp only
      split <;> omega
  · cases h

theorem isProper_of_begin {b : Nat} {p : Pending} (h : (begin b).2 = some p) : p.IsProper := by
  unfold begin at h
  split at h
  · cases h
  · next hlead =>
    obtain rfl := Option.some.inj h
    exact isProper_of_lead hlead
  · cases h

theorem isProper_of_step {state : Option Pending} {b : Nat} {p : Pending}
    (h : (step state b).2 = some p) : p.IsProper := by
  unfold step at h
  split at h
  · exact isProper_of_begin h
  · split at h
    · dsimp only at h
      split at h
      · cases h
      · obtain rfl := Option.some.inj h
        simp [Pending.IsProper]
    · exact isProper_of_begin h

theorem decodeFrom_cons (state : Option Pending) (b : UInt8) (rest : List UInt8) :
    decodeFrom state (b :: rest) =
      (step state b.toNat).1 ++ decodeFrom (step state b.toNat).2 rest := rfl

/-- What was pending when a character starts is given up there, as it is at the end of the bytes. -/
theorem decodeFrom_append {state : Option Pending} (hstate : ∀ p, state = some p → p.IsProper)
    (bytes : List UInt8) {b : UInt8} (hb : b.toNat < 0x80 ∨ 0xC0 ≤ b.toNat) (rest : List UInt8) :
    decodeFrom state (bytes ++ b :: rest) =
      decodeFrom state bytes ++ decodeFrom none (b :: rest) := by
  induction bytes generalizing state with
  | nil =>
    cases state with
    | none => rfl
    | some p =>
      obtain ⟨hlow, hhigh⟩ := hstate p rfl
      have hstep : step (some p) b.toNat =
          (replacement :: (begin b.toNat).1, (begin b.toNat).2) := if_neg (by omega)
      rw [List.nil_append, decodeFrom_cons, hstep]
      rfl
  | cons b' bytes ih =>
    rw [List.cons_append, decodeFrom_cons, decodeFrom_cons, ih fun p hp => isProper_of_step hp,
      List.append_assoc]

/-- A character is read back wherever its bytes stand, and what is around it is read as if it stood
alone. -/
theorem decode_append_char (bytes : List UInt8) (c : Char) (rest : List UInt8) :
    decode (bytes ++ (String.utf8EncodeChar c ++ rest)) = decode bytes ++ c :: decode rest := by
  obtain ⟨b, more, hchar, hb⟩ : ∃ b more, String.utf8EncodeChar c = b :: more ∧
      (b.toNat < 0x80 ∨ 0xC0 ≤ b.toNat) := by
    rcases utf8EncodeChar_cases c with ⟨hc, hbytes⟩ | ⟨-, first, more, hbytes, hfirst, -⟩
    · exact ⟨_, [], hbytes, .inl (by rwa [toNat_ofNat (by omega)])⟩
    · exact ⟨first, more, hbytes, .inr hfirst⟩
  have hread := decodeFrom_utf8EncodeChar c rest
  rw [hchar, List.cons_append] at hread ⊢
  rw [decode, decodeFrom_append (by simp) bytes hb, hread]
  rfl

end Utf8

namespace Percent

/-! ## Bytes that are in no escape -/

/-- A byte that is not a digit and starts no escape. -/
def IsInert (b : UInt8) : Prop := b ≠ 0x25 ∧ hexValue? b = none

/-- A character that is neither the sign of an escape nor a digit has no byte that is. -/
theorem isInert_of_mem_utf8EncodeChar {c : Char} (hpercent : c ≠ '%')
    (hdigit : ∀ n, ¬ IsHexDigit c n) : ∀ b ∈ String.utf8EncodeChar c, IsInert b := by
  refine forall_mem_utf8EncodeChar (fun hc => ⟨ofNat_ne_percent hc hpercent, ?_⟩)
    fun b hb => ⟨ne_percent_of_le hb, hexValue?_eq_none_of_le hb⟩
  cases hvalue : hexValue? (UInt8.ofNat c.toNat) with
  | none => rfl
  | some v =>
    obtain ⟨n, hn⟩ := exists_isHexDigit hc hvalue
    exact absurd hn (hdigit n)

theorem escaped?_eq_none_left {high : UInt8} (h : hexValue? high = none) (low : UInt8) :
    escaped? high low = none := by
  rw [escaped?, h]

theorem escaped?_eq_none_right {low : UInt8} (h : hexValue? low = none) (high : UInt8) :
    escaped? high low = none := by
  rw [escaped?, h]
  cases hexValue? high <;> rfl

/-- An escape that is cut short by an inert byte stays as it is. -/
theorem unescape_append (bytes : List UInt8) {b : UInt8} (hb : IsInert b) (rest : List UInt8) :
    unescape (bytes ++ b :: rest) = unescape bytes ++ unescape (b :: rest) := by
  fun_induction unescape bytes with
  | case1 high low bytes value hvalue ih =>
    simp only [List.cons_append]
    rw [unescape, hvalue, ih]
  | case2 high low bytes hnone ih =>
    simp only [List.cons_append] at ih ⊢
    rw [unescape, hnone, ih]
  | case3 first bytes hshort ih =>
    rw [List.cons_append]
    by_cases hfirst : first = 0x25
    · subst hfirst
      -- fewer than two bytes follow the sign, so `b` is one of the two behind it
      refine (unescape_percent fun high low rest' heq => ?_).trans (by rw [ih, List.cons_append])
      cases bytes with
      | nil =>
        obtain ⟨rfl, -⟩ := List.cons.inj heq
        exact escaped?_eq_none_left hb.2 low
      | cons high' more =>
        obtain ⟨rfl, hmore⟩ := List.cons.inj heq
        cases more with
        | nil =>
          obtain ⟨rfl, -⟩ := List.cons.inj hmore
          exact escaped?_eq_none_right hb.2 high'
        | cons low' more => exact absurd rfl (hshort high' low' more rfl)
    · rw [unescape_cons hfirst, ih, List.cons_append]
  | case4 => rfl

/-! ## Seams -/

theorem spaced_append (s t : List Char) : spaced (s ++ t) = spaced s ++ spaced t :=
  List.map_append

/-- The three passes together. -/
theorem decodeAll_append (before : List Char) {c : Char} (hpercent : c ≠ '%')
    (hdigit : ∀ n, ¬ IsHexDigit c n) (later : List Char) :
    decodeAll (before ++ c :: later) =
      decodeAll before ++ (if c = '+' then ' ' else c) :: decodeAll later := by
  -- a space is inert as well
  obtain ⟨d, hd, hinert⟩ : ∃ d, (if c = '+' then ' ' else c) = d ∧
      ∀ b ∈ String.utf8EncodeChar d, IsInert b := by
    refine ⟨_, rfl, ?_⟩
    split
    · refine isInert_of_mem_utf8EncodeChar (by decide) fun n hn => ?_
      exact absurd hn.facts.2.2.1 (by decide)
    · exact isInert_of_mem_utf8EncodeChar hpercent hdigit
  have hspaced : spaced (before ++ c :: later) = spaced before ++ d :: spaced later := by
    rw [spaced_append, ← hd]
    rfl
  have hunescape : unescape (Utf8.encode (spaced (before ++ c :: later))) =
      unescape (Utf8.encode (spaced before)) ++
        (String.utf8EncodeChar d ++ unescape (Utf8.encode (spaced later))) := by
    rw [hspaced, Utf8.encode_append, Utf8.encode_cons]
    have hleft := unescape_append_left (fun b hb => (hinert b hb).1) (Utf8.encode (spaced later))
    rw [← hleft]
    obtain ⟨b, more, hchar⟩ := List.exists_cons_of_ne_nil (String.utf8EncodeChar_ne_nil (c := d))
    rw [hchar] at hinert ⊢
    exact unescape_append _ (hinert b List.mem_cons_self) _
  rw [decodeAll, hunescape, Utf8.decode_append_char, hd]
  rfl

theorem decode_singleton {c : Char} (hpercent : c ≠ '%') (hdigit : ∀ n, ¬ IsHexDigit c n) :
    decode (String.singleton c) = String.singleton (if c = '+' then ' ' else c) := by
  have hseam := decodeAll_append [] hpercent hdigit []
  rw [decode_eq, String.toList_singleton, String.singleton_eq_ofList]
  exact congrArg String.ofList hseam

/-- **Decoding is local.** A character that can be no part of an escape, for it is neither `%` nor a
hexadecimal digit, is a seam of every text: what stands before it, the character and what stands
behind it are decoded as if each were a text of its own. The character itself survives, or is the
space that `+` stands for, whatever escapes are cut short on either side and whether or not their
bytes are those of a text. -/
theorem decode_append_seam (before later : String) {c : Char} (hpercent : c ≠ '%')
    (hdigit : ∀ n, ¬ IsHexDigit c n) :
    decode (before ++ String.singleton c ++ later) =
        decode before ++ decode (String.singleton c) ++ decode later ∧
      decode (String.singleton c) = if c = '+' then " " else String.singleton c := by
  have hsingle := decode_singleton hpercent hdigit
  refine ⟨?_, hsingle.trans (apply_ite _ _ _ _)⟩
  have hlist : (before ++ String.singleton c ++ later).toList =
      before.toList ++ c :: later.toList := by
    simp
  rw [hsingle, decode_eq, hlist, decodeAll_append _ hpercent hdigit, decode_eq before,
    decode_eq later, String.singleton_eq_ofList, ← String.ofList_append, ← String.ofList_append,
    List.append_assoc]
  rfl

/-- Two bytes of a character are cut off by one that stands there raw, which leaves the last byte
alone behind it; the sign at the end lacks a digit. -/
theorem decode_aroundSeam :
    'é' ≠ '%' ∧ (∀ n, ¬ IsHexDigit 'é' n) ∧
      decode ("a%E2%82" ++ String.singleton 'é' ++ "%AC%4") =
        decode "a%E2%82" ++ decode (String.singleton 'é') ++ decode "%AC%4" ∧
      decode "a%E2%82" ++ decode (String.singleton 'é') ++ decode "%AC%4" =
        "a\ufffdé\ufffd%4" := by
  have hdigit : ∀ n, ¬ IsHexDigit 'é' n := by
    rintro n ⟨hn, hdigit⟩
    revert n
    decide
  exact ⟨by decide, hdigit, (decode_append_seam _ _ (by decide) hdigit).1, by decide +kernel⟩

end Percent

end PathRouter.Text
