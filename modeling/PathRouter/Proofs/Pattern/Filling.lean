import PathRouter.Proofs.Pattern.Emitted

/-!
# Filling a pattern with values

What a plain pattern matches, said by putting values together instead of taking a path apart: some
values fit a path if the pattern with its captures replaced by them is the path, or the path less a
slash at its end (`Fits`).

* `fillings` lists the values that fit, and tries longer ones first; `mem_fillings` says that it
  misses none and `pairwise_fillings` that the lengths descend in lexicographic order.
* `head?_fillings_eq_some_iff`: so its head is the one whose lengths are greatest.
-/

namespace PathRouter.Pattern

/-! ## Values and paths -/

/-- The pieces with their captures replaced by values, in order. -/
def fill : List Piece → List (List Char) → List Char
  | .literal text :: pieces, values => text ++ fill pieces values
  | .capture _ :: pieces, value :: values => value ++ fill pieces values
  | _, _ => []

/-- Values that are those of the groups are captured by the names of the pattern. -/
theorem captures_eq_zip {p : Pattern} {path : String} {m : Regex.Match} {values : List (List Char)}
    (hfind : p.regex.find? path.toList = some m) (hlength : values.length = p.names.length)
    (hgroups : ∀ i value, values[i]? = some value → p.regex.hasGroup (groupName i) ∧
      m.group? path.toList (groupName i) = some value) :
    p.captures path = some (p.names.zip (values.map String.ofList)) := by
  rw [captures, hfind, Option.map_some]
  refine congrArg some (List.ext_getElem (by simp [hlength]) fun i hi hi' => ?_)
  have hvalue : i < values.length := by simpa [hlength] using hi
  obtain ⟨hgroup, hmatched⟩ := hgroups i values[i] (List.getElem?_eq_getElem hvalue)
  rw [List.getElem_mapIdx, List.getElem_zip, List.getElem_map, captured, if_pos hgroup, hmatched,
    Option.getD_some]

/-- Whether `value` can stand for a capture that has no condition. -/
def isCaptureValue (value : List Char) : Bool := !value.isEmpty && value.all isCaptureChar

/-- The values fit the path. -/
structure Fits (pieces : List Piece) (values : List (List Char)) (path : List Char) : Prop where
  length : values.length = (Piece.names pieces).length
  valid : ∀ value ∈ values, isCaptureValue value
  /-- One slash more may stand at the end. -/
  covers : path = fill pieces values ∨ path = fill pieces values ++ ['/']

/-- The lengths that a value at the front of a path may have, in descending order. -/
def runLengths (path : List Char) : List Nat :=
  (List.range (path.takeWhile isCaptureChar).length).reverse.map (· + 1)

/-- The values that fit a path, those with longer values in front first. -/
def fillings : List Piece → List Char → List (List (List Char))
  | [], path => if path = [] ∨ path = ['/'] then [[]] else []
  | .literal text :: pieces, path =>
    if text.isPrefixOf path then fillings pieces (path.drop text.length) else []
  | .capture _ :: pieces, path =>
    (runLengths path).flatMap fun n => (fillings pieces (path.drop n)).map (path.take n :: ·)

/-! ## All values that fit -/

/-- The characters that are taken while they satisfy `p` are as many as can be. -/
theorem le_length_takeWhile_iff {p : Char → Bool} {n : Nat} {path : List Char} :
    n ≤ (path.takeWhile p).length ↔ n ≤ path.length ∧ (path.take n).all p := by
  induction path generalizing n with
  | nil => simp
  | cons c path ih =>
    cases n with
    | zero => simp
    | succ n =>
      cases hc : p c with
      | false => simp [hc]
      | true => simp [hc, ih]

theorem mem_runLengths {n : Nat} {path : List Char} :
    n ∈ runLengths path ↔ n ≤ path.length ∧ isCaptureValue (path.take n) := by
  cases n with
  | zero => simp [runLengths, isCaptureValue]
  | succ n =>
    have hempty : n + 1 ≤ path.length → (path.take (n + 1)).isEmpty = false := by
      cases path <;> simp
    have hmem : n + 1 ∈ runLengths path ↔ n + 1 ≤ (path.takeWhile isCaptureChar).length := by
      simp only [runLengths, List.mem_map, List.mem_reverse, List.mem_range,
        Nat.add_right_cancel_iff, exists_eq_right, Nat.succ_le_iff]
    rw [hmem, le_length_takeWhile_iff]
    refine and_congr_right fun hle => ?_
    simp [isCaptureValue, hempty hle]

theorem pairwise_runLengths (path : List Char) : (runLengths path).Pairwise (· > ·) := by
  rw [runLengths, List.pairwise_map, List.pairwise_reverse]
  exact List.pairwise_lt_range.imp Nat.succ_lt_succ

theorem fits_nil {values : List (List Char)} {path : List Char} :
    Fits [] values path ↔ values = [] ∧ (path = [] ∨ path = ['/']) := by
  constructor
  · intro h
    have hnil : values = [] := List.length_eq_zero_iff.mp h.length
    exact ⟨hnil, by simpa [fill] using h.covers⟩
  · rintro ⟨rfl, hpath⟩
    exact ⟨rfl, by simp, by simpa [fill] using hpath⟩

theorem fits_literal {text : List Char} {pieces : List Piece} {values : List (List Char)}
    {path : List Char} :
    Fits (.literal text :: pieces) values path ↔
      text <+: path ∧ Fits pieces values (path.drop text.length) := by
  constructor
  · rintro ⟨hlength, hvalid, rfl | rfl⟩
    · exact ⟨⟨_, rfl⟩, hlength, hvalid, .inl (by simp [fill])⟩
    · exact ⟨⟨fill pieces values ++ ['/'], by simp [fill]⟩, hlength, hvalid,
        .inr (by simp [fill])⟩
  · rintro ⟨⟨rest, rfl⟩, hlength, hvalid, hcovers⟩
    rw [List.drop_left] at hcovers
    refine ⟨hlength, hvalid, hcovers.imp (fun h => ?_) (fun h => ?_)⟩
    · rw [h, fill]
    · rw [h, fill, List.append_assoc]

theorem fits_capture {name : List Char} {pieces : List Piece} {values : List (List Char)}
    {path : List Char} :
    Fits (.capture name :: pieces) values path ↔
      ∃ n ∈ runLengths path, ∃ others, Fits pieces others (path.drop n) ∧
        values = path.take n :: others := by
  constructor
  · rintro ⟨hlength, hvalid, hcovers⟩
    cases values with
    | nil => cases hlength
    | cons value others =>
      obtain ⟨hvalue, hothers⟩ := List.forall_mem_cons.mp hvalid
      -- with or without the slash, the path is the value and what the rest of the pieces takes
      obtain ⟨rest, rfl, hrest⟩ : ∃ rest, path = value ++ rest ∧
          (rest = fill pieces others ∨ rest = fill pieces others ++ ['/']) := by
        rcases hcovers with rfl | rfl
        · exact ⟨_, rfl, .inl rfl⟩
        · exact ⟨_, List.append_assoc _ _ _, .inr rfl⟩
      refine ⟨value.length, ?_, others, ⟨Nat.succ.inj hlength, hothers, ?_⟩, ?_⟩
      · rw [mem_runLengths, List.take_left]
        exact ⟨by simp, hvalue⟩
      · rwa [List.drop_left]
      · rw [List.take_left]
  · rintro ⟨n, hn, others, ⟨hlength, hvalid, hcovers⟩, rfl⟩
    refine ⟨congrArg (· + 1) hlength,
      List.forall_mem_cons.mpr ⟨(mem_runLengths.mp hn).2, hvalid⟩, ?_⟩
    refine hcovers.imp (fun h => ?_) (fun h => ?_)
    · rw [fill, ← h, List.take_append_drop]
    · rw [fill, List.append_assoc, ← h, List.take_append_drop]

/-- The list holds just the values that fit. -/
theorem mem_fillings {pieces : List Piece} {values : List (List Char)} {path : List Char} :
    values ∈ fillings pieces path ↔ Fits pieces values path := by
  induction pieces generalizing values path with
  | nil =>
    rw [fits_nil, fillings]
    split
    · next h => simp [h]
    · next h => simp [h]
  | cons piece pieces ih =>
    cases piece with
    | literal text =>
      rw [fits_literal, fillings, ← ih, ← List.isPrefixOf_iff_prefix]
      split
      · next h => simp [h]
      · next h => simp [h]
    | capture name =>
      rw [fits_capture, fillings, List.mem_flatMap]
      simp only [List.mem_map, ih, eq_comm]

/-! ## Their order -/

/-- The lengths of some values, which decide between two ways to fill a pattern. -/
def lengths (values : List (List Char)) : List Nat := values.map List.length

/-- Of two ways to fill a pattern, the one with longer values in front comes first. -/
theorem pairwise_fillings (pieces : List Piece) (path : List Char) :
    (fillings pieces path).Pairwise fun values others => lengths others < lengths values := by
  induction pieces generalizing path with
  | nil =>
    rw [fillings]
    split
    · exact List.pairwise_singleton _ _
    · exact .nil
  | cons piece pieces ih =>
    cases piece with
    | literal text =>
      rw [fillings]
      split
      · exact ih _
      · exact .nil
    | capture name =>
      rw [fillings, List.pairwise_flatMap]
      constructor
      · intro n _
        rw [List.pairwise_map]
        exact (ih _).imp fun hlt => List.cons_lt_cons_iff.mpr (.inr ⟨rfl, hlt⟩)
      · -- a longer first value decides, whatever the others are
        refine (pairwise_runLengths path).imp_of_mem fun {n m} hn hm hlt => ?_
        intro values hvalues others hothers
        obtain ⟨_, _, rfl⟩ := List.mem_map.mp hvalues
        obtain ⟨_, _, rfl⟩ := List.mem_map.mp hothers
        refine List.cons_lt_cons_iff.mpr (.inl ?_)
        rw [List.length_take_of_le (mem_runLengths.mp hn).1,
          List.length_take_of_le (mem_runLengths.mp hm).1]
        exact hlt

/-- **The first of the values that fit is the one whose lengths are greatest.** -/
theorem head?_fillings_eq_some_iff {pieces : List Piece} {values : List (List Char)}
    {path : List Char} :
    (fillings pieces path).head? = some values ↔
      Fits pieces values path ∧
        ∀ others, Fits pieces others path → others ≠ values → lengths others < lengths values := by
  have horder := pairwise_fillings pieces path
  simp only [← mem_fillings]
  cases hlist : fillings pieces path with
  | nil => simp
  | cons first rest =>
    rw [hlist] at horder
    obtain ⟨hfirst, -⟩ := List.pairwise_cons.mp horder
    rw [List.head?_cons, Option.some.injEq]
    constructor
    · rintro rfl
      refine ⟨List.mem_cons_self, fun others hmem hne => ?_⟩
      exact hfirst others ((List.mem_cons.mp hmem).resolve_left hne)
    · rintro ⟨hmem, hgreatest⟩
      rcases List.mem_cons.mp hmem with rfl | hmem
      · rfl
      · by_cases heq : first = values
        · exact heq
        · -- each of the two would be the greater one
          have hlt := hgreatest first List.mem_cons_self heq
          exact absurd (hfirst values hmem) (List.lt_asymm hlt)

/-! ## Patterns with one filling -/

/-- Whether a value ends where the pieces begin: at the end of a pattern, or in front of a character
that no value holds. -/
def endsValue : List Piece → Bool
  | [] => true
  | .literal (c :: _) :: _ => !isCaptureChar c
  | _ => false

/-- Whether every value in the pattern ends where its capture does. -/
def isDelimited : List Piece → Bool
  | [] => true
  | .literal _ :: pieces => isDelimited pieces
  | .capture _ :: pieces => endsValue pieces && isDelimited pieces

/-- Where a value ends, the run of characters that a value may hold does. -/
theorem head?_of_endsValue {pieces : List Piece} (hends : endsValue pieces)
    {values : List (List Char)} {path : List Char} (hfits : Fits pieces values path) :
    ∀ c ∈ path.head?, isCaptureChar c = false := by
  intro c hc
  cases pieces with
  | nil =>
    rcases (fits_nil.mp hfits).2 with rfl | rfl
    · cases hc
    · obtain rfl : '/' = c := Option.some.inj hc
      decide
  | cons piece pieces =>
    cases piece with
    | capture name => cases hends
    | literal text =>
      cases text with
      | nil => cases hends
      | cons d text =>
        obtain ⟨rest, rfl⟩ := (fits_literal.mp hfits).1
        obtain rfl : d = c := Option.some.inj hc
        simpa [endsValue] using hends

/-- **Where every value ends with its capture, at most one filling fits.** -/
theorem Fits.unique {pieces : List Piece} (hdelimited : isDelimited pieces)
    {values others : List (List Char)} {path : List Char} (hfits : Fits pieces values path)
    (hfits' : Fits pieces others path) : values = others := by
  induction pieces generalizing values others path with
  | nil => rw [(fits_nil.mp hfits).1, (fits_nil.mp hfits').1]
  | cons piece pieces ih =>
    cases piece with
    | literal text =>
      exact ih hdelimited (fits_literal.mp hfits).2 (fits_literal.mp hfits').2
    | capture name =>
      obtain ⟨hends, hrest⟩ := Bool.and_eq_true_iff.mp hdelimited
      -- the length of the value is that of the whole run
      have hlength {n : Nat} {more : List (List Char)} (hn : n ∈ runLengths path)
          (hmore : Fits pieces more (path.drop n)) : n = (path.takeWhile isCaptureChar).length := by
        obtain ⟨hle, hvalue⟩ := mem_runLengths.mp hn
        have hchars : ∀ c ∈ path.take n, isCaptureChar c :=
          List.all_eq_true.mp (Bool.and_eq_true_iff.mp hvalue).2
        have hstop : (path.drop n).takeWhile isCaptureChar = [] := by
          have hhead := head?_of_endsValue hends hmore
          cases hdrop : path.drop n with
          | nil => rfl
          | cons c rest =>
            rw [hdrop] at hhead
            exact List.takeWhile_cons_of_neg (by simp [hhead c rfl])
        rw [← List.take_append_drop n path, List.takeWhile_append_of_pos hchars, hstop,
          List.append_nil, List.length_take_of_le hle]
      obtain ⟨n, hn, more, hmore, rfl⟩ := fits_capture.mp hfits
      obtain ⟨n', hn', more', hmore', rfl⟩ := fits_capture.mp hfits'
      obtain rfl : n = n' := (hlength hn hmore).trans (hlength hn' hmore').symm
      rw [ih hrest hmore hmore']

/-- The list then holds the one filling. -/
theorem head?_fillings_of_fits {pieces : List Piece} (hdelimited : isDelimited pieces)
    {values : List (List Char)} {path : List Char} (hfits : Fits pieces values path) :
    (fillings pieces path).head? = some values :=
  head?_fillings_eq_some_iff.mpr
    ⟨hfits, fun _ hothers hne => absurd (Fits.unique hdelimited hothers hfits) hne⟩

end PathRouter.Pattern
