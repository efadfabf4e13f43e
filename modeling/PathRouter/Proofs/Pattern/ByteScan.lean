import PathRouter.Proofs.Pattern.CaptureGroups
import PathRouter.Proofs.Pattern.Cut
import PathRouter.Proofs.Text.Percent
import PathRouter.Proofs.Text.Slice

/-!
# Scanning a pattern byte by byte

The scan of a pattern as a loop over its bytes: it looks for the next colon, counts the name bytes
behind it and slices the pattern before the colon, at the name and behind it. Such a loop stands or
falls with its offsets, for a slice that cuts through a character is none. `scanFrom_encode` is its
invariant: at the boundary between any two parts of a pattern, what is left is scanned like a
pattern of its own. So the loop finds what cutting the characters into pieces finds
(`scanBytes_eq`), on every pattern. `expression_of_cut` puts this beside the cut itself.
-/

namespace PathRouter.Pattern

open Text.Utf8 (encode decode encode_append encode_cons slice? slice?_encode)

/-! ## The loop -/

/-- Whether `b` is the byte of a character that may stand in a name. -/
def isNameByte (b : UInt8) : Bool := isNameChar (Char.ofNat b.toNat)

/-- What a scan has written so far: the expression, and the names of the captures. -/
structure Draft where
  expression : List UInt8
  names : List (List UInt8)

namespace Draft

/-- Copies literal text. -/
def addLiteral (d : Draft) (text : List UInt8) : Draft :=
  { d with expression := d.expression ++ text }

/-- Writes the group of the next capture. -/
def addCapture (d : Draft) (conditions : Conditions) (name : List UInt8) : Draft where
  expression := d.expression ++ encode (groupText d.names.length (inner conditions (decode name)))
  names := d.names ++ [name]

end Draft

/-- The scan of `text` from byte `start` on; `none` if it cuts through a character. -/
def scanFrom (conditions : Conditions) (text : List UInt8) (start : Nat) (d : Draft) :
    Option Draft :=
  match _hcolon : (text.drop start).findIdx? (· = 0x3A) with
  | none => (slice? text start text.length).map d.addLiteral
  | some pos =>
    let name := start + pos + 1
    let stop := name + ((text.drop name).takeWhile isNameByte).length
    if stop = name then do
      let literal ← slice? text start name
      scanFrom conditions text name (d.addLiteral literal)
    else do
      let literal ← slice? text start (start + pos)
      let captured ← slice? text name stop
      scanFrom conditions text stop ((d.addLiteral literal).addCapture conditions captured)
termination_by text.length - start
decreasing_by
  all_goals
    obtain ⟨hpos, -⟩ := List.findIdx?_eq_some_iff_getElem.mp _hcolon
    rw [List.length_drop] at hpos
    omega

/-- The scan of a pattern, with the anchors around it. -/
def scanBytes (source : String) (conditions : Conditions) : Option Draft :=
  (scanFrom conditions (encode source.toList) 0 ⟨encode ['^'], []⟩).map
    (·.addLiteral (encode "/?$".toList))

/-! ## Bytes of characters -/

theorem eq_colon_of_mem_utf8EncodeChar {c : Char} (h : 0x3A ∈ String.utf8EncodeChar c) :
    c = ':' := by
  rcases Text.Utf8.utf8EncodeChar_cases c with
    ⟨hc, hbytes⟩ | ⟨-, first, more, hbytes, hfirst, hmore⟩
  · rw [hbytes, List.mem_singleton] at h
    have hnat := congrArg UInt8.toNat h
    rw [Text.Utf8.toNat_ofNat (by omega)] at hnat
    exact Char.ext (UInt32.toNat_inj.mp hnat.symm)
  · -- no byte beyond ASCII is that of a colon
    rw [hbytes] at h
    rcases List.mem_cons.mp h with rfl | h
    · exact absurd hfirst (by decide)
    · exact absurd (hmore _ h) (by decide)

theorem findIdx?_encode_of_not_mem {text : List Char} (h : ':' ∉ text) :
    (encode text).findIdx? (· = 0x3A) = none := by
  rw [List.findIdx?_eq_none_iff]
  intro b hb
  obtain ⟨c, hc, hmem⟩ := List.mem_flatMap.mp hb
  refine decide_eq_false ?_
  rintro rfl
  exact h (eq_colon_of_mem_utf8EncodeChar hmem ▸ hc)

theorem findIdx?_encode {text : List Char} (h : ':' ∉ text) (rest : List Char) :
    (encode (text ++ ':' :: rest)).findIdx? (· = 0x3A) = some (encode text).length := by
  have hcolon : encode (':' :: rest) = 0x3A :: encode rest := rfl
  rw [encode_append, hcolon, List.findIdx?_append, findIdx?_encode_of_not_mem h,
    List.findIdx?_cons]
  simp

theorem isNameChar_eq_false {c : Char} (hc : 0x80 ≤ c.toNat) : isNameChar c = false := by
  by_contra hname
  have hunreserved : Text.Percent.isUnreserved c := by
    simp only [Bool.not_eq_false, isNameChar] at hname
    simp [Text.Percent.isUnreserved, hname]
  have hlt := Text.Percent.toNat_lt_of_isUnreserved hunreserved
  omega

/-- The name bytes in front are those of the name characters in front. -/
theorem takeWhile_isNameByte_encode (text : List Char) :
    (encode text).takeWhile isNameByte = encode (text.takeWhile isNameChar) := by
  induction text with
  | nil => rfl
  | cons c text ih =>
    rw [encode_cons, List.takeWhile_cons]
    rcases Text.Utf8.utf8EncodeChar_cases c with ⟨hc, hbytes⟩ | ⟨hc, first, more, hbytes, hfirst, -⟩
    · have hbyte : isNameByte (UInt8.ofNat c.toNat) = isNameChar c := by
        rw [isNameByte, Text.Utf8.toNat_ofNat (by omega), Char.ofNat_toNat]
      rw [hbytes, List.singleton_append, List.takeWhile_cons, hbyte, ih]
      cases isNameChar c with
      | true => exact (congrArg (· ++ _) hbytes.symm).trans (encode_cons c _).symm
      | false => rfl
    · have hbyte : isNameByte first = false := by
        have hlt := first.toNat_lt
        have hvalid : first.toNat.isValidChar := .inl (by omega)
        refine isNameChar_eq_false ?_
        unfold Char.ofNat
        rw [dif_pos hvalid]
        exact Nat.le_trans (by decide) hfirst
      rw [hbytes, List.cons_append, List.takeWhile_cons, hbyte, isNameChar_eq_false hc]
      rfl

/-! ## The invariant -/

namespace Draft

/-- Writes some pieces, with the captures numbered on. -/
def addPieces (d : Draft) (conditions : Conditions) (pieces : List Piece) : Draft where
  expression := d.expression ++ encode (body conditions d.names.length pieces)
  names := d.names ++ (Piece.names pieces).map encode

theorem addLiteral_addLiteral (d : Draft) (s t : List Char) :
    (d.addLiteral (encode s)).addLiteral (encode t) = d.addLiteral (encode (s ++ t)) := by
  simp [addLiteral, encode_append]

theorem addPieces_nil (d : Draft) (conditions : Conditions) : d.addPieces conditions [] = d := by
  simp [addPieces, body, Piece.names, encode]

theorem addPieces_consLiteral (d : Draft) (conditions : Conditions) (c : Char)
    (pieces : List Piece) :
    d.addPieces conditions (Piece.consLiteral c pieces) =
      (d.addLiteral (encode [c])).addPieces conditions pieces := by
  fun_cases Piece.consLiteral c pieces <;>
    simp [addPieces, addLiteral, body, Piece.names, encode]

theorem addPieces_capture (d : Draft) (conditions : Conditions) (name : List Char)
    (pieces : List Piece) :
    d.addPieces conditions (.capture name :: pieces) =
      (d.addCapture conditions (encode name)).addPieces conditions pieces := by
  simp [addPieces, addCapture, body, Piece.names, encode_append, Text.Utf8.decode_encode]

/-- Text without a colon is literal. -/
theorem addPieces_scan_append (d : Draft) (conditions : Conditions) {text : List Char}
    (h : ':' ∉ text) (rest : List Char) :
    d.addPieces conditions (Piece.scan (text ++ rest)) =
      (d.addLiteral (encode text)).addPieces conditions (Piece.scan rest) := by
  induction text generalizing d with
  | nil => simp [addLiteral, encode]
  | cons c text ih =>
    rw [List.mem_cons, not_or] at h
    rw [List.cons_append, Piece.scan_literal (fun hc => absurd hc.symm h.1), addPieces_consLiteral,
      ih _ h.2, addLiteral_addLiteral]
    rfl

end Draft

section Rounds

variable {conditions : Conditions} {text : List UInt8} {start : Nat} {d : Draft}

/-- The last round, with no colon left. -/
theorem scanFrom_last (h : (text.drop start).findIdx? (· = 0x3A) = none) :
    scanFrom conditions text start d = (slice? text start text.length).map d.addLiteral := by
  rw [scanFrom]
  split
  · rfl
  · next pos hpos =>
    rw [h] at hpos
    cases hpos

/-- The round of a colon at byte `pos`. -/
theorem scanFrom_colon {pos name stop : Nat}
    (h : (text.drop start).findIdx? (· = 0x3A) = some pos) (hname : start + pos + 1 = name)
    (hstop : name + ((text.drop name).takeWhile isNameByte).length = stop) :
    scanFrom conditions text start d =
      if stop = name then
        (slice? text start name).bind fun literal =>
          scanFrom conditions text name (d.addLiteral literal)
      else
        (slice? text start (start + pos)).bind fun literal =>
          (slice? text name stop).bind fun captured =>
            scanFrom conditions text stop
              ((d.addLiteral literal).addCapture conditions captured) := by
  subst hname hstop
  rw [scanFrom]
  split
  · next hnone =>
    rw [h] at hnone
    cases hnone
  · next pos' hpos =>
    obtain rfl : pos = pos' := Option.some.inj (h.symm.trans hpos)
    rfl

end Rounds

theorem drop_encode (before rest : List Char) :
    (encode (before ++ rest)).drop (encode before).length = encode rest := by
  rw [encode_append, List.drop_left]

/-- **One round.** Where a colon comes next, no slice cuts through a character, and the loop goes on
behind the colon or behind the name. -/
theorem scanFrom_encode_colon (conditions : Conditions) (before after : List Char) (d : Draft)
    {text : List Char} (htext : ':' ∉ text) :
    let seen := before ++ (text ++ [':'])
    let name := after.takeWhile isNameChar
    scanFrom conditions (encode (before ++ (text ++ ':' :: after))) (encode before).length d =
      if name = [] then
        scanFrom conditions (encode (seen ++ after)) (encode seen).length
          (d.addLiteral (encode (text ++ [':'])))
      else
        scanFrom conditions (encode (seen ++ name ++ after.dropWhile isNameChar))
          (encode (seen ++ name)).length
          ((d.addLiteral (encode text)).addCapture conditions (encode name)) := by
  intro seen name
  have hwhole : before ++ (text ++ ':' :: after) = seen ++ after := by simp [seen]
  have hsplit : seen ++ name ++ after.dropWhile isNameChar = seen ++ after := by
    rw [List.append_assoc, List.takeWhile_append_dropWhile]
  have hsum : (encode before).length + (encode text).length = (encode (before ++ text)).length := by
    rw [encode_append, List.length_append]
  have hpos : ((encode (seen ++ after)).drop (encode before).length).findIdx? (· = 0x3A) =
      some (encode text).length := by
    rw [← hwhole, drop_encode]
    exact findIdx?_encode htext after
  have hname : (encode before).length + (encode text).length + 1 = (encode seen).length := by
    rw [hsum, show seen = before ++ text ++ [':'] from (List.append_assoc _ _ _).symm,
      encode_append _ [':'], List.length_append]
    rfl
  have hstop : (encode seen).length +
      (((encode (seen ++ after)).drop (encode seen).length).takeWhile isNameByte).length =
        (encode (seen ++ name)).length := by
    rw [drop_encode, takeWhile_isNameByte_encode, encode_append seen name, List.length_append]
  rw [hwhole, scanFrom_colon hpos hname hstop]
  by_cases hempty : name = []
  · have hslice : slice? (encode (seen ++ after)) (encode before).length (encode seen).length =
        some (encode (text ++ [':'])) := slice?_encode before (text ++ [':']) after
    rw [if_pos hempty, hempty, List.append_nil, if_pos rfl, hslice]
    rfl
  · have hliteral : slice? (encode (seen ++ after)) (encode before).length
        (encode (before ++ text)).length = some (encode text) := by
      rw [← hwhole, ← List.append_assoc]
      exact slice?_encode before text (':' :: after)
    have hcaptured : slice? (encode (seen ++ after)) (encode seen).length
        (encode (seen ++ name)).length = some (encode name) := by
      rw [← hsplit]
      exact slice?_encode seen name _
    -- a name is some bytes long
    have hlonger : (encode (seen ++ name)).length ≠ (encode seen).length := by
      rw [encode_append, List.length_append]
      intro hlength
      have hnil : encode name = encode [] := List.length_eq_zero_iff.mp (by omega)
      exact hempty (Text.Utf8.encode_inj hnil)
    rw [if_neg hempty, if_neg hlonger, hsum, hliteral, hcaptured, hsplit]
    rfl

/-- **The loop's invariant.** Between any two parts of a pattern the loop goes on with the pieces of
the second. -/
theorem scanFrom_encode (conditions : Conditions) (before rest : List Char) (d : Draft) :
    scanFrom conditions (encode (before ++ rest)) (encode before).length d =
      some (d.addPieces conditions (Piece.scan rest)) := by
  by_cases hcolon : ':' ∈ rest
  · obtain ⟨text, after, hrest, htext⟩ := List.eq_append_cons_of_mem hcolon
    rw [hrest, scanFrom_encode_colon conditions before after d htext,
      Draft.addPieces_scan_append d conditions htext]
    split
    · next hname =>
      have hliteral := takeWhile_isNameChar_eq_nil_iff.mp hname
      rw [scanFrom_encode, Piece.scan_literal (fun _ => hliteral), Draft.addPieces_consLiteral,
        Draft.addLiteral_addLiteral]
    · next hname =>
      rw [scanFrom_encode, Piece.scan_capture hname, Draft.addPieces_capture]
  · have hslice := slice?_encode before rest []
    rw [List.append_nil] at hslice
    have hscan := d.addPieces_scan_append conditions hcolon []
    rw [List.append_nil, Piece.scan, Draft.addPieces_nil] at hscan
    rw [scanFrom_last (by rw [drop_encode]; exact findIdx?_encode_of_not_mem hcolon), hslice,
      Option.map_some, hscan]
termination_by rest.length
decreasing_by
  all_goals
    have hle := (List.dropWhile_sublist isNameChar (l := after)).length_le
    rw [hrest, List.length_append, List.length_cons]
    omega

/-! ## Whole patterns -/

/-- **The loop over bytes fails on no pattern, and finds what the cut into pieces finds.** -/
theorem scanBytes_eq (source : String) (conditions : Conditions) :
    scanBytes source conditions =
      some ⟨encode (assemble source conditions).toList,
        (captureNames source).map fun name => encode name.toList⟩ := by
  have hscan : scanFrom conditions (encode source.toList) 0 ⟨encode ['^'], []⟩ = some _ :=
    scanFrom_encode conditions [] source.toList ⟨encode ['^'], []⟩
  have hnames : (captureNames source).map (fun name => encode name.toList) =
      (Piece.names (Piece.scan source.toList)).map encode := by
    simp [captureNames, Function.comp_def]
  have hexpression (body : List Char) : encode ('^' :: (body ++ "/?$".toList)) =
      encode ['^'] ++ encode body ++ encode "/?$".toList := by
    rw [← encode_append, ← encode_append]
    rfl
  rw [scanBytes, hscan, Option.map_some, hnames, toList_assemble, hexpression]
  rfl

/-- **A pattern is cut in one way, and its expression is written piece by piece.** Literal text
stands in the expression as it is, and the capture that `n` others precede becomes the group
`__pn`, which matches the condition for its name or else the default. The names are those of the
captures, in order and with repetitions. The loop over the bytes of the pattern finds the same, and
each byte at which it slices the pattern is the boundary of a character. -/
theorem expression_of_cut (source : String) (conditions : Conditions) :
    ∃ pieces, Piece.IsCut pieces ∧ pieces.flatMap Piece.source = source.toList ∧
      (∀ others, Piece.IsCut others → others.flatMap Piece.source = source.toList →
        others = pieces) ∧
      (∀ p, compile source conditions = .ok p →
        p.names = (Piece.names pieces).map String.ofList ∧
        p.expression = "^" ++ String.join (pieces.mapIdx fun i piece =>
          written conditions (Piece.names (pieces.take i)).length piece) ++ "/?$") ∧
      scanBytes source conditions =
        some ⟨encode (assemble source conditions).toList,
          (captureNames source).map fun name => encode name.toList⟩ := by
  refine ⟨Piece.scan source.toList, Piece.isCut_scan _, Piece.flatMap_source_scan _, ?_, ?_,
    scanBytes_eq source conditions⟩
  · intro others hcut htext
    exact (Piece.existsUnique_cut source.toList).unique ⟨hcut, htext⟩
      ⟨Piece.isCut_scan _, Piece.flatMap_source_scan _⟩
  · intro p hcompile
    obtain ⟨hexpression, hnames, -⟩ := parse_of_compile hcompile
    exact ⟨hnames, hexpression.trans (assemble_eq_join source conditions)⟩

end PathRouter.Pattern
