import PathRouter.Proofs.Pattern.Expression

/-!
# The cut of a pattern

What the pieces of a pattern are, said without a scan: the name of a capture is not empty, consists
of name characters and is followed by none; literal text holds no colon that a name character
follows; and two literals in a row are one (`IsCut`). Every text has one cut only, and that is the
one the scan finds (`existsUnique_cut`), for a cut is scanned from its own text again
(`IsCut.scan_eq`).

`body_eq_flatMap` then says what each piece becomes in the expression, by the number of captures in
front of it.
-/

namespace PathRouter.Pattern

/-! ## Runs of name characters -/

theorem takeWhile_isNameChar_eq_nil_iff {text : List Char} :
    text.takeWhile isNameChar = [] ↔ ∀ c ∈ text.head?, isNameChar c = false := by
  cases text with
  | nil => simp
  | cons c text => cases hc : isNameChar c <;> simp [hc]

section Runs

variable {name rest : List Char} (hname : ∀ c ∈ name, isNameChar c)
  (hend : ∀ c ∈ rest.head?, isNameChar c = false)

include hname hend

/-- A run of name characters up to one that is none is the longest. -/
theorem takeWhile_isNameChar_append : (name ++ rest).takeWhile isNameChar = name := by
  rw [List.takeWhile_append_of_pos hname, takeWhile_isNameChar_eq_nil_iff.mpr hend, List.append_nil]

theorem dropWhile_isNameChar_append : (name ++ rest).dropWhile isNameChar = rest := by
  have hsplit := List.takeWhile_append_dropWhile (p := isNameChar) (l := name ++ rest)
  rw [takeWhile_isNameChar_append hname hend] at hsplit
  exact List.append_cancel_left hsplit

end Runs

namespace Piece

/-! ## Steps of the scan -/

theorem scan_capture {rest : List Char} (h : rest.takeWhile isNameChar ≠ []) :
    scan (':' :: rest) =
      .capture (rest.takeWhile isNameChar) :: scan (rest.dropWhile isNameChar) := by
  rw [scan, if_pos ⟨rfl, h⟩]

theorem scan_literal {c : Char} {rest : List Char}
    (h : c = ':' → ∀ d ∈ rest.head?, isNameChar d = false) :
    scan (c :: rest) = consLiteral c (scan rest) := by
  rw [scan, if_neg]
  rintro ⟨hc, hname⟩
  exact hname (takeWhile_isNameChar_eq_nil_iff.mpr (h hc))

/-! ## The grammar -/

/-- No capture begins in `text` where `rest` follows it: behind a colon stands no name character. -/
def HoldsNoCapture (text rest : List Char) : Prop :=
  ∀ before after, text = before ++ ':' :: after → ∀ c ∈ (after ++ rest).head?, isNameChar c = false

/-- The pieces are what the text that they make up is to be cut into. -/
inductive IsCut : List Piece → Prop where
  | nil : IsCut []
  | literal {text : List Char} {rest : List Piece} (hne : text ≠ [])
      (htext : HoldsNoCapture text (rest.flatMap source))
      (hnext : ∀ text', rest.head? ≠ some (.literal text')) (hrest : IsCut rest) :
      IsCut (.literal text :: rest)
  | capture {name : List Char} {rest : List Piece} (hne : name ≠ [])
      (hname : ∀ c ∈ name, isNameChar c)
      (hend : ∀ c ∈ (rest.flatMap source).head?, isNameChar c = false) (hrest : IsCut rest) :
      IsCut (.capture name :: rest)

theorem holdsNoCapture_cons {c : Char} {text rest : List Char} :
    HoldsNoCapture (c :: text) rest ↔
      (c = ':' → ∀ d ∈ (text ++ rest).head?, isNameChar d = false) ∧ HoldsNoCapture text rest := by
  constructor
  · intro h
    refine ⟨fun hc => h [] text (by rw [hc]; rfl), fun before after htext => ?_⟩
    exact h (c :: before) after (by rw [htext]; rfl)
  · rintro ⟨hcolon, htext⟩ before after heq
    cases before with
    | nil =>
      obtain ⟨hc, rfl⟩ := List.cons.inj heq
      exact hcolon hc
    | cons d before => exact htext before after (List.cons.inj heq).2

/-! ## Every text has one cut -/

/-- A character more in front of a cut. -/
theorem IsCut.consLiteral {c : Char} {pieces : List Piece} (h : IsCut pieces)
    (hc : c = ':' → ∀ d ∈ (pieces.flatMap source).head?, isNameChar d = false) :
    IsCut (consLiteral c pieces) := by
  have hnone (rest : List Char) : HoldsNoCapture [] rest := by
    intro before after htext
    simp at htext
  cases h with
  | nil =>
    exact .literal (List.cons_ne_nil _ _) (holdsNoCapture_cons.mpr ⟨hc, hnone _⟩)
      (fun _ => by simp) .nil
  | literal hne htext hnext hrest =>
    exact .literal (List.cons_ne_nil _ _) (holdsNoCapture_cons.mpr ⟨hc, htext⟩) hnext hrest
  | capture hne hname hend hrest =>
    exact .literal (List.cons_ne_nil _ _) (holdsNoCapture_cons.mpr ⟨hc, hnone _⟩)
      (fun _ => by simp) (.capture hne hname hend hrest)

theorem isCut_scan (text : List Char) : IsCut (scan text) := by
  fun_induction scan text with
  | case1 => exact .nil
  | case2 c rest hcapture hlength ih =>
    refine .capture hcapture.2 (fun c hc => ?_) ?_ ih
    · exact List.all_eq_true.mp List.all_takeWhile c hc
    · -- the run of name characters is over where the rest begins
      rw [flatMap_source_scan]
      intro c hc
      have hhead := List.head?_dropWhile_not isNameChar rest
      rw [Option.mem_def.mp hc] at hhead
      simpa using hhead
  | case3 c rest hliteral ih =>
    refine ih.consLiteral fun hc => ?_
    rw [flatMap_source_scan]
    exact takeWhile_isNameChar_eq_nil_iff.mp (not_not.mp fun hname => hliteral ⟨hc, hname⟩)

/-- Literal text in front of a text that does not begin with any. -/
theorem scan_append {text rest : List Char} (hne : text ≠ []) (htext : HoldsNoCapture text rest)
    (hnext : ∀ text', (scan rest).head? ≠ some (.literal text')) :
    scan (text ++ rest) = .literal text :: scan rest := by
  induction text with
  | nil => exact absurd rfl hne
  | cons c text ih =>
    obtain ⟨hcolon, htext⟩ := holdsNoCapture_cons.mp htext
    rw [List.cons_append, scan_literal hcolon]
    cases text with
    | nil =>
      rw [List.nil_append]
      -- nothing to put the character in front of
      cases hscan : scan rest with
      | nil => rfl
      | cons piece pieces =>
        cases piece with
        | literal text' => exact absurd (congrArg List.head? hscan) (hnext text')
        | capture name => rfl
    | cons d text => rw [ih (List.cons_ne_nil _ _) htext, Piece.consLiteral]

/-- **A cut is what its own text is scanned as.** -/
theorem IsCut.scan_eq {pieces : List Piece} (h : IsCut pieces) :
    scan (pieces.flatMap source) = pieces := by
  induction h with
  | nil => rw [List.flatMap_nil, scan]
  | literal hne htext hnext hrest ih =>
    rw [List.flatMap_cons, source, scan_append hne htext (by rw [ih]; exact hnext), ih]
  | capture hne hname hend hrest ih =>
    rw [List.flatMap_cons, source, List.cons_append, scan_capture,
      takeWhile_isNameChar_append hname hend, dropWhile_isNameChar_append hname hend, ih]
    rwa [takeWhile_isNameChar_append hname hend]

/-- **Every text has one cut.** -/
theorem existsUnique_cut (text : List Char) :
    ∃! pieces, IsCut pieces ∧ pieces.flatMap source = text := by
  refine ⟨scan text, ⟨isCut_scan text, flatMap_source_scan text⟩, ?_⟩
  rintro pieces ⟨hcut, rfl⟩
  exact hcut.scan_eq.symm

/-- The second of two colons may begin a capture, and a letter beyond ASCII ends its name. -/
example : scan "::añ:".toList = [.literal [':'], .capture ['a'], .literal ['ñ', ':']] := by
  decide +kernel

end Piece

/-! ## The expression of a cut -/

/-- What a piece becomes in an expression where `index` captures stand in front of it. -/
def written (conditions : Conditions) (index : Nat) : Piece → String
  | .literal text => String.ofList text
  | .capture name =>
    "(?P<__p" ++ toString index ++ ">" ++
      (conditions.get? (String.ofList name)).getD defaultCapture ++ ")"

theorem toList_written_capture (conditions : Conditions) (index : Nat) (name : List Char) :
    (written conditions index (.capture name)).toList =
      groupText index (inner conditions name) := by
  have hdigits : (toString index).toList = Nat.toDigits 10 index := Nat.toList_repr
  unfold written groupText groupName inner
  simp only [String.toList_append, String.toList_ofList, List.append_assoc, hdigits]
  rfl

theorem body_eq_flatMap (conditions : Conditions) (index : Nat) (pieces : List Piece) :
    body conditions index pieces =
      (pieces.mapIdx fun i piece =>
        written conditions (index + (Piece.names (pieces.take i)).length) piece).flatMap
          String.toList := by
  induction pieces generalizing index with
  | nil => rfl
  | cons piece pieces ih =>
    rw [List.mapIdx_cons, List.flatMap_cons]
    cases piece with
    | literal text =>
      rw [body, ih, written, String.toList_ofList]
      rfl
    | capture name =>
      rw [body, ih, toList_written_capture]
      -- the capture counts for all that stands behind it
      have hcount (i : Nat) : index + 1 + (Piece.names (pieces.take i)).length =
          index + (Piece.names ((Piece.capture name :: pieces).take (i + 1))).length := by
        rw [List.take_succ_cons, Piece.names, List.length_cons]
        omega
      simp only [hcount]
      rfl

theorem assemble_eq_join (source : String) (conditions : Conditions) :
    assemble source conditions =
      "^" ++ String.join ((Piece.scan source.toList).mapIdx fun i piece =>
        written conditions (Piece.names ((Piece.scan source.toList).take i)).length piece) ++
          "/?$" := by
  rw [← String.toList_inj, toList_assemble, body_eq_flatMap, String.toList_append,
    String.toList_append, String.toList_join]
  simp only [Nat.zero_add]
  rfl

end PathRouter.Pattern
