import PathRouter.Proofs.Text.Locality

/-!
# Values are no longer than their texts

A byte that is no UTF-8 is replaced by a character of three bytes, and yet a value never has more
bytes than its text (`utf8ByteSize_decode_le`). Such a byte comes from an escape, for a character
that stands raw in a text is a seam if it is beyond ASCII, and is one byte of its own if it is not;
and an escape is as long as the replacement.

* `length_step_le` and `length_decodeFrom_le`: the machine writes no more than its bytes have cost.
* `costs_unescape_le`: a text of ASCII pays for its bytes.
-/

namespace PathRouter.Text

namespace Utf8

/-- How long a text has to be for the byte `b`, which may stand for itself if it is ASCII and comes
from an escape otherwise. -/
def cost (b : UInt8) : Nat := if b.toNat < 0x80 then 1 else 3

/-- How long a text has to be for some bytes. -/
def costs : List UInt8 → Nat
  | [] => 0
  | b :: bytes => cost b + costs bytes

/-- What has been paid at least for the character that is pending. -/
def credit : Option Pending → Nat
  | none => 0
  | some _ => 3

theorem length_encode_cons (c : Char) (text : List Char) :
    (encode (c :: text)).length = c.utf8Size + (encode text).length := by
  rw [encode_cons, List.length_append, String.length_utf8EncodeChar]

/-- A byte between characters writes no more than it costs; what is pending behind it is written
later. -/
theorem length_begin_le (b : UInt8) :
    (encode (begin b.toNat).1).length + credit (begin b.toNat).2 ≤ cost b := by
  unfold cost
  split
  · next hb =>
    have hbegin : begin b.toNat = ([Char.ofNat b.toNat], none) := by
      rw [begin, lead, if_pos hb]
    have hascii : ∀ n < 0x80, (Char.ofNat n).utf8Size = 1 := by decide
    rw [hbegin, length_encode_cons, hascii _ hb]
    exact Nat.le_refl 1
  · next hb =>
    unfold begin
    split
    · next c hlead =>
      -- only ASCII is complete
      unfold lead at hlead
      rw [if_neg hb] at hlead
      repeat' split at hlead
      all_goals cases hlead
    · exact Nat.le_refl 3
    · exact Nat.le_refl 3

/-- **The step.** What is written and what is pending then has been paid for. -/
theorem length_step_le (state : Option Pending) (b : UInt8) :
    (encode (step state b.toNat).1).length + credit (step state b.toNat).2 ≤
      credit state + cost b := by
  have hbegin := length_begin_le b
  cases state with
  | none => exact Nat.le_trans hbegin (Nat.le_add_left _ _)
  | some p =>
    have hcost : 1 ≤ cost b := by
      unfold cost
      split <;> omega
    unfold step
    dsimp only
    split
    · split
      · -- the character is complete: it has four bytes at most, and two were read at least
        have hfour := Char.utf8Size_le_four (Char.ofNat (p.value * 64 + (b.toNat - 0x80)))
        rw [length_encode_cons]
        show _ + 0 + 0 ≤ 3 + cost b
        omega
      · exact Nat.le_add_right 3 _
    · rw [length_encode_cons, Nat.add_assoc]
      exact Nat.add_le_add_left hbegin 3

/-- **The run.** -/
theorem length_decodeFrom_le (state : Option Pending) (bytes : List UInt8) :
    (encode (decodeFrom state bytes)).length ≤ credit state + costs bytes := by
  induction bytes generalizing state with
  | nil =>
    cases state with
    | none => exact Nat.le_refl 0
    | some p => exact Nat.le_refl 3
  | cons b bytes ih =>
    have hstep := length_step_le state b
    have hrest := ih (step state b.toNat).2
    rw [decodeFrom_cons, encode_append, List.length_append, costs]
    omega

end Utf8

namespace Percent

/-- The bytes of a text of ASCII cost no more than there are characters. -/
theorem costs_unescape_le {bytes : List UInt8} (h : ∀ b ∈ bytes, b.toNat < 0x80) :
    Utf8.costs (unescape bytes) ≤ bytes.length := by
  fun_induction unescape bytes with
  | case1 high low bytes value hvalue ih =>
    have hrest := ih fun b hb => h b (by simp [hb])
    have hcost : Utf8.cost value ≤ 3 := by
      unfold Utf8.cost
      split <;> omega
    simp only [Utf8.costs, List.length_cons]
    omega
  | case2 high low bytes hnone ih =>
    have hrest := ih fun b hb => h b (List.mem_cons_of_mem _ hb)
    have hcost : Utf8.cost 0x25 = 1 := rfl
    simp only [Utf8.costs, List.length_cons] at hrest ⊢
    omega
  | case3 b bytes hshort ih =>
    have hrest := ih fun b' hb' => h b' (List.mem_cons_of_mem _ hb')
    have hcost : Utf8.cost b = 1 := if_pos (h b List.mem_cons_self)
    simp only [Utf8.costs, List.length_cons]
    omega
  | case4 => exact Nat.le_refl 0

/-- A space is as long as the sign for it. -/
theorem length_encode_spaced (raw : List Char) :
    (Utf8.encode (spaced raw)).length = (Utf8.encode raw).length := by
  induction raw with
  | nil => rfl
  | cons c raw ih =>
    have hspace : (if c = '+' then ' ' else c).utf8Size = c.utf8Size := by
      split
      · next hc =>
        rw [hc]
        rfl
      · rfl
    rw [spaced_cons, Utf8.length_encode_cons, Utf8.length_encode_cons, ih, hspace]

/-- A text of ASCII has bytes of ASCII. -/
theorem toNat_lt_of_mem_encode_spaced {raw : List Char} (h : ∀ c ∈ raw, c.toNat < 0x80) :
    ∀ b ∈ Utf8.encode (spaced raw), b.toNat < 0x80 := by
  intro b hb
  obtain ⟨d, hd, hb⟩ := List.mem_flatMap.mp hb
  obtain ⟨c, hc, rfl⟩ := List.mem_map.mp hd
  have hascii : (if c = '+' then ' ' else c).toNat < 0x80 := by
    split
    · decide
    · exact h c hc
  rcases Utf8.utf8EncodeChar_cases (if c = '+' then ' ' else c) with ⟨-, hbytes⟩ | ⟨hbeyond, -⟩
  · rw [hbytes, List.mem_singleton] at hb
    rwa [hb, Utf8.toNat_ofNat (by omega)]
  · omega

theorem length_decodeAll_le (raw : List Char) :
    (Utf8.encode (decodeAll raw)).length ≤ (Utf8.encode raw).length := by
  -- on the length of the text, which a character beyond ASCII divides into shorter ones
  induction hn : raw.length using Nat.strongRecOn generalizing raw with
  | ind n ih =>
  by_cases hascii : ∀ c ∈ raw, c.toNat < 0x80
  · calc (Utf8.encode (decodeAll raw)).length
        ≤ 0 + Utf8.costs (unescape (Utf8.encode (spaced raw))) :=
          Utf8.length_decodeFrom_le none _
      _ = Utf8.costs (unescape (Utf8.encode (spaced raw))) := Nat.zero_add _
      _ ≤ (Utf8.encode (spaced raw)).length :=
          costs_unescape_le (toNat_lt_of_mem_encode_spaced hascii)
      _ = (Utf8.encode raw).length := length_encode_spaced raw
  · simp only [Classical.not_forall, Nat.not_lt, exists_prop] at hascii
    obtain ⟨c, hc, hbeyond⟩ := hascii
    obtain ⟨before, later, rfl⟩ := List.append_of_mem hc
    rw [List.length_append, List.length_cons] at hn
    have hne {d : Char} (hd : d.toNat < 0x80) : c ≠ d := by
      rintro rfl
      omega
    have hdigit : ∀ n, ¬ IsHexDigit c n := fun _ hdigit => absurd hdigit.facts.1 (by omega)
    have hbefore := ih before.length (by omega) before rfl
    have hlater := ih later.length (by omega) later rfl
    rw [decodeAll_append before (hne (by decide)) hdigit, if_neg (hne (by decide)),
      Utf8.encode_append, Utf8.encode_append, List.length_append, List.length_append,
      Utf8.length_encode_cons, Utf8.length_encode_cons]
    omega

/-- **Decoding never makes a value longer than its text**, in bytes, though a replacement is three
bytes long and may stand for one. -/
theorem utf8ByteSize_decode_le (raw : String) :
    (decode raw).utf8ByteSize ≤ raw.utf8ByteSize := by
  have hsize (text : List Char) :
      (String.ofList text).utf8ByteSize = (Utf8.encode text).length := by
    simp [Utf8.encode, String.utf8ByteSize, List.utf8Encode]
  have hraw := hsize raw.toList
  rw [String.ofList_toList] at hraw
  rw [decode_eq, hsize, hraw]
  exact length_decodeAll_le raw.toList

/-- A replacement can be as long as its escape. -/
example : (decode "%FF").utf8ByteSize = "%FF".utf8ByteSize := by decide +kernel

end Percent

end PathRouter.Text
