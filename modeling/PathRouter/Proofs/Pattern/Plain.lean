import PathRouter.Proofs.Pattern.Expression
import PathRouter.Proofs.Pattern.Filling
import PathRouter.Proofs.Regex.Groups
import PathRouter.Proofs.Regex.LeftmostFirst

/-!
# What a plain pattern matches

The ways of a plain pattern's expression through a path are the values that fit the path, in the
order in which `fillings` lists them (`goalsWays_pieceExprs`), and the marks of a way are the places
of its values (`trace`). As the search takes the first way, a plain pattern matches just the paths
that some values fit, and captures those values whose lengths are greatest.
-/

namespace PathRouter

namespace Pattern

open Regex

/-! ## Ways and values -/

/-- The marks of values in their groups, latest first: the first capture is number `i` and the
pieces begin at the position `pos`. -/
def trace (i pos : Nat) : List Piece → List (List Char) → List Mark
  | .literal text :: pieces, values => trace i (pos + text.length) pieces values
  | .capture _ :: pieces, value :: values =>
    trace (i + 1) (pos + value.length) pieces values ++
      [.closed (groupName i) (pos + value.length), .opened (groupName i) pos]
  | _, _ => []

theorem ways_captureExpr (i : Nat) (p : Place) :
    (captureExpr i).ways p = (runLengths p.rest).map fun n =>
      ⟨p.skip n, [.closed (groupName i) (p.skip n).pos, .opened (groupName i) p.pos]⟩ := by
  have hset : captureSet.contains = isCaptureChar := funext contains_captureSet
  rw [captureExpr, Expr.ways, Ways.mark_andThen, Ways.andThen_mark, Expr.ways_rep_one_chars, hset]
  simp [runLengths, Way.behind]

theorem goalsWays_literal (text : List Char) (p : Place) :
    goalsWays (text.map fun c => .expr (.chars (.single c))) p =
      if text.isPrefixOf p.rest then [⟨p.skip text.length, []⟩] else [] := by
  induction text generalizing p with
  | nil => simp [goalsWays, Ways.stay]
  | cons c text ih =>
    rw [List.map_cons, goalsWays, Goal.ways, Ways.andThen_apply]
    cases hrest : p.rest with
    | nil => simp [Expr.ways_chars_nil hrest]
    | cons d rest =>
      rw [Expr.ways_chars_cons hrest, CharSet.contains_single]
      by_cases hd : d = c
      · subst hd
        rw [decide_eq_true rfl, if_pos rfl, List.flatMap_singleton, ih,
          show (p.step d rest).rest = rest from rfl, List.isPrefixOf_cons_cons_self]
        split <;> simp [Place.skip_succ hrest, Way.behind]
      · have hd' : c ≠ d := fun h => hd h.symm
        simp [hd, hd']

theorem goalsWays_closingExprs (p : Place) :
    goalsWays (closingExprs.map .expr) p =
      if p.rest = [] ∨ p.rest = ['/'] then [⟨p.skip p.rest.length, []⟩] else [] := by
  -- the end of the text is looked for behind the slash first, and then without it
  have hend (q : Place) : (Expr.look .textEnd).ways q = if q.rest = [] then [⟨q, []⟩] else [] := by
    cases hrest : q.rest <;> simp [Expr.ways, Look.holds, Place.around, hrest]
  simp only [closingExprs, List.map_cons, List.map_nil, goalsWays, Goal.ways, Ways.andThen_stay]
  rw [Ways.andThen_apply, Expr.ways_rep_zero_some_succ, Expr.ways_rep_zero_some_zero]
  simp only [Ways.choose, if_true, Ways.andThen_stay, Ways.stay, List.flatMap_append,
    List.flatMap_singleton]
  cases hrest : p.rest with
  | nil => simp [Expr.ways_chars_nil hrest, hend, hrest]
  | cons c rest =>
    rw [Expr.ways_chars_cons hrest, CharSet.contains_single]
    by_cases hc : c = '/'
    · cases rest with
      | nil => simp [hc, hend, hrest, Place.step, Place.skip_succ hrest]
      | cons d rest => simp [hc, hend, hrest, Place.step]
    · simp [hc, hend, hrest]

/-- The ways through the pieces of a pattern are the values that fit. -/
theorem goalsWays_pieceExprs (i : Nat) (pieces : List Piece) (p : Place) :
    goalsWays ((pieceExprs i pieces ++ closingExprs).map .expr) p =
      (fillings pieces p.rest).map fun values =>
        ⟨p.skip p.rest.length, trace i p.pos pieces values⟩ := by
  induction pieces generalizing i p with
  | nil =>
    rw [pieceExprs, List.nil_append, goalsWays_closingExprs, fillings]
    split <;> rfl
  | cons piece pieces ih =>
    cases piece with
    | literal text =>
      rw [pieceExprs, List.append_assoc, List.map_append, goalsWays_append, List.map_map]
      rw [Ways.andThen_apply, show Goal.expr ∘ (fun c => Expr.chars (.single c)) =
        fun c => .expr (.chars (.single c)) from rfl, goalsWays_literal, fillings]
      split
      · next hprefix =>
        -- the text takes up its own length, and the rest of the pieces goes on from there
        have hle : text.length ≤ p.rest.length :=
          (List.isPrefixOf_iff_prefix.mp hprefix).length_le
        have hrest := ih i (p.skip text.length)
        rw [Place.skip_length_rest hle, Place.rest_skip, Place.pos_skip hle] at hrest
        rw [List.flatMap_singleton, hrest]
        simp [Way.behind, trace]
      · rfl
    | capture name =>
      rw [pieceExprs, List.cons_append, List.map_cons, goalsWays, Goal.ways, Ways.andThen_apply,
        ways_captureExpr, fillings, List.flatMap_map, List.map_flatMap]
      -- each length that the value may have is one way on, the greatest first
      refine List.flatMap_congr fun n hn => ?_
      have hle : n ≤ p.rest.length := (mem_runLengths.mp hn).1
      have hrest := ih (i + 1) (p.skip n)
      rw [Place.skip_length_rest hle, Place.rest_skip, Place.pos_skip hle] at hrest
      simp only [hrest, Place.pos_skip hle, List.map_map]
      refine List.map_congr_left fun values _ => ?_
      simp [Way.behind, trace, List.length_take_of_le hle]

/-! ## The search -/

theorem isSteady_plainExpr (pieces : List Piece) : (plainExpr pieces).isSteady := by
  have hpieces (i : Nat) : (pieceExprs i pieces).all Expr.isSteady := by
    induction pieces generalizing i with
    | nil => rfl
    | cons piece pieces ih =>
      cases piece with
      | literal text => simp [pieceExprs, ih, Expr.isSteady]
      | capture name => simp [pieceExprs, ih, captureExpr, Expr.isSteady, Expr.isNullable]
  simp [plainExpr, Expr.isSteady_cats, hpieces, closingExprs, Expr.isSteady]

/-- The search through a path finds the first of the values that fit it. -/
theorem search_plainExpr (pieces : List Piece) (path : List Char) :
    (plainExpr pieces).search path =
      (fillings pieces path).head?.map fun values => ⟨0, path.length, trace 0 0 pieces values⟩ := by
  -- the anchor at the front lets nothing begin behind a character
  have hways (p : Place) : (plainExpr pieces).ways p = if p.before = none then
      goalsWays ((pieceExprs 0 pieces ++ closingExprs).map .expr) p else [] := by
    rw [plainExpr, Expr.ways_cats, List.map_cons, goalsWays, Goal.ways, Ways.andThen_apply]
    cases hbefore : p.before <;> simp [Expr.ways, Look.holds, Place.around, hbefore]
  rw [search_of_anchored (isSteady_plainExpr pieces)]
  · rw [hways, if_pos rfl, goalsWays_pieceExprs]
    simp [Match.ofWay, Place.pos_skip, Function.comp_def]
  · intro p hp
    rw [hways, if_neg (Option.isSome_iff_ne_none.mp hp)]

/-! ## The values of groups -/

theorem mem_trace {i pos : Nat} {pieces : List Piece} {values : List (List Char)} {mark : Mark}
    (h : mark ∈ trace i pos pieces values) : ∃ k, i ≤ k ∧ mark.name = groupName k := by
  fun_induction trace i pos pieces values with
  | case1 i pos text pieces values ih => exact ih h
  | case2 i pos name pieces value values ih =>
    rcases List.mem_append.mp h with h | h
    · obtain ⟨k, hk, hname⟩ := ih h
      exact ⟨k, Nat.le_of_succ_le hk, hname⟩
    · rcases List.mem_pair.mp h with rfl | rfl
      · exact ⟨i, Nat.le_refl i, rfl⟩
      · exact ⟨i, Nat.le_refl i, rfl⟩
  | case3 => cases h

/-- A group has matched the value of its capture. -/
theorem group?_trace {pieces : List Piece} {values : List (List Char)} {path : List Char}
    (hlength : values.length = (Piece.names pieces).length) {pos : Nat}
    (hfill : fill pieces values <+: path.drop pos) (i j start stop : Nat) :
    Match.group? ⟨start, stop, trace i pos pieces values⟩ path (groupName (i + j)) =
      values[j]? := by
  induction pieces generalizing values pos i j with
  | nil =>
    rw [List.length_eq_zero_iff.mp hlength]
    rfl
  | cons piece pieces ih =>
    cases piece with
    | literal text =>
      rw [trace]
      refine ih hlength ?_ i j
      obtain ⟨tail, htail⟩ := hfill
      refine ⟨tail, ?_⟩
      rw [← List.drop_drop, ← htail, fill, List.append_assoc, List.drop_left]
    | capture name =>
      cases values with
      | nil => cases hlength
      | cons value values =>
        obtain ⟨tail, htail⟩ := hfill
        rw [fill, List.append_assoc] at htail
        have hvalue : Match.slice path pos (pos + value.length) = value := by
          rw [Match.slice, ← htail, Nat.add_sub_cancel_left, List.take_left]
        have hrest : fill pieces values <+: path.drop (pos + value.length) :=
          ⟨tail, by rw [← List.drop_drop, ← htail, List.drop_left]⟩
        rw [trace]
        cases j with
        | zero =>
          -- the marks of the later captures bear other names
          rw [Match.group?_append_right]
          · simp [Match.group?, hvalue]
          · intro mark hmark
            obtain ⟨k, hk, hname⟩ := mem_trace hmark
            rw [hname, Nat.add_zero, Ne, groupName_inj]
            omega
        | succ j =>
          -- and so do those of this one
          rw [Match.group?_append_left]
          · rw [List.getElem?_cons_succ, ← ih (Nat.succ.inj hlength) hrest (i + 1) j]
            congr 2
            omega
          · intro mark hmark
            have hname : mark.name = groupName i := by
              rcases List.mem_pair.mp hmark with rfl | rfl <;> rfl
            rw [hname, Ne, groupName_inj]
            omega

theorem groups_plainExpr (pieces : List Piece) :
    (plainExpr pieces).groups = (groupNames 0 (Piece.names pieces).length).map some := by
  have hpieces (i : Nat) : (pieceExprs i pieces).flatMap Expr.groups =
      (groupNames i (Piece.names pieces).length).map some := by
    induction pieces generalizing i with
    | nil => rfl
    | cons piece pieces ih =>
      cases piece with
      | literal text =>
        simp [pieceExprs, ih, Expr.groups, Piece.names, List.flatMap_map]
      | capture name =>
        simp [pieceExprs, ih, captureExpr, Expr.groups, Piece.names, groupNames, List.range'_succ]
  simp [plainExpr, Expr.groups_cats, hpieces, closingExprs, Expr.groups]

/-! ## Plain patterns -/

/-- What a plain pattern is once it is ready for use. -/
def plainPattern (source : String) (conditions : Conditions) : Pattern :=
  ⟨source, captureNames source, ⟨assemble source conditions, plainExpr (Piece.scan source.toList)⟩⟩

/-- A plain pattern can be used unless it is too long. -/
theorem compile_plain {source : String} {conditions : Conditions}
    (hplain : ∀ piece ∈ Piece.scan source.toList, piece.isPlain)
    (hfree : ∀ name ∈ captureNames source, conditions.get? name = none) :
    compile source conditions =
      if weightLimit < (plainExpr (Piece.scan source.toList)).weight then
        .error ⟨source, faultyParameter? (captureNames source) conditions, .tooBig⟩
      else .ok (plainPattern source conditions) := by
  rw [compile, Regex.compile, parse_assemble hplain hfree]
  by_cases hweight : weightLimit < (plainExpr (Piece.scan source.toList)).weight
  · simp only [hweight, if_true]
  · simp only [hweight, if_false]
    rfl

theorem eq_plainPattern {source : String} {conditions : Conditions} {p : Pattern}
    (hcompile : compile source conditions = .ok p)
    (hplain : ∀ piece ∈ Piece.scan source.toList, piece.isPlain)
    (hfree : ∀ name ∈ captureNames source, conditions.get? name = none) :
    p = plainPattern source conditions := by
  rw [compile_plain hplain hfree] at hcompile
  split at hcompile
  · cases hcompile
  · exact (Except.ok.inj hcompile).symm

theorem isMatch_plainPattern (source : String) (conditions : Conditions) (path : String) :
    (plainPattern source conditions).isMatch path ↔
      ∃ values, Fits (Piece.scan source.toList) values path.toList := by
  show ((plainExpr (Piece.scan source.toList)).search path.toList).isSome ↔ _
  rw [search_plainExpr, Option.isSome_map]
  simp only [← mem_fillings]
  cases fillings (Piece.scan source.toList) path.toList with
  | nil => simp
  | cons values rest => exact ⟨fun _ => ⟨values, List.mem_cons_self⟩, fun _ => rfl⟩

/-- The captures are the first of the values that fit. -/
theorem captures_plainPattern (source : String) (conditions : Conditions) (path : String) :
    (plainPattern source conditions).captures path =
      (fillings (Piece.scan source.toList) path.toList).head?.map fun values =>
        (captureNames source).zip (values.map String.ofList) := by
  have hfind : (plainPattern source conditions).regex.find? path.toList = _ :=
    search_plainExpr (Piece.scan source.toList) path.toList
  cases hhead : (fillings (Piece.scan source.toList) path.toList).head? with
  | none =>
    rw [captures, hfind, hhead]
    rfl
  | some values =>
    rw [hhead, Option.map_some] at hfind
    have hfits : Fits (Piece.scan source.toList) values path.toList :=
      mem_fillings.mp (List.mem_of_head? hhead)
    have hnames : values.length = (captureNames source).length := by
      rw [hfits.length, captureNames, List.length_map]
    have hfill : fill (Piece.scan source.toList) values <+: path.toList.drop 0 := by
      rcases hfits.covers with hpath | hpath
      · exact ⟨[], by rw [hpath, List.append_nil, List.drop_zero]⟩
      · exact ⟨['/'], by rw [List.drop_zero, ← hpath]⟩
    refine captures_eq_zip hfind hnames fun i value hvalue => ⟨?_, ?_⟩
    · -- every group is there, so that no capture falls back to the whole match
      have hi : i < values.length := (List.getElem?_eq_some_iff.mp hvalue).1
      have hgroups : (plainPattern source conditions).regex.groups =
          (groupNames 0 values.length).map some := by
        rw [hfits.length]
        exact groups_plainExpr _
      simp only [Regex.hasGroup, hgroups, groupNames, List.contains_iff_mem, List.mem_map]
      exact ⟨groupName i, ⟨i, by simpa using hi, rfl⟩, rfl⟩
    · have hgroup := group?_trace hfits.length hfill 0 i 0 path.toList.length
      rwa [Nat.zero_add, hvalue] at hgroup

/-- **The language and the captures of a plain pattern.** Cut the source into its literals and its
captures. A path matches if it is, less a slash at its end or not, the source with some values for
the captures; and the values that are captured are those whose lengths are greatest in lexicographic
order. -/
theorem plain_isMatch_and_captures {source : String} {conditions : Conditions} {p : Pattern}
    (hcompile : compile source conditions = .ok p)
    (hplain : ∀ piece ∈ Piece.scan source.toList, piece.isPlain)
    (hfree : ∀ name ∈ captureNames source, conditions.get? name = none) (path : String) :
    (Piece.scan source.toList).flatMap Piece.source = source.toList ∧
      (p.isMatch path ↔ ∃ values, Fits (Piece.scan source.toList) values path.toList) ∧
      ∀ captures, p.captures path = some captures ↔
        ∃ values, Fits (Piece.scan source.toList) values path.toList ∧
          (∀ others, Fits (Piece.scan source.toList) others path.toList → others ≠ values →
            lengths others < lengths values) ∧
          captures = (captureNames source).zip (values.map String.ofList) := by
  rw [eq_plainPattern hcompile hplain hfree]
  refine ⟨Piece.flatMap_source_scan _, isMatch_plainPattern source conditions path, ?_⟩
  intro captures
  rw [captures_plainPattern, Option.map_eq_some_iff]
  constructor
  · rintro ⟨values, hhead, rfl⟩
    obtain ⟨hfits, hgreatest⟩ := head?_fillings_eq_some_iff.mp hhead
    exact ⟨values, hfits, hgreatest, rfl⟩
  · rintro ⟨values, hfits, hgreatest, rfl⟩
    exact ⟨values, head?_fillings_eq_some_iff.mpr ⟨hfits, hgreatest⟩, rfl⟩

/-- Of two captures in a row the first takes all but one of the characters. -/
theorem captures_adjacent :
    compile "/u/:a:b" .empty = .ok (plainPattern "/u/:a:b" .empty) ∧
      (plainPattern "/u/:a:b" .empty).captures "/u/xyz/" = some [("a", "xy"), ("b", "z")] := by
  have hscan : Piece.scan "/u/:a:b".toList =
      [.literal "/u/".toList, .capture ['a'], .capture ['b']] := by
    simp [Piece.scan, Piece.consLiteral, isNameChar]
  have hplain : ∀ piece ∈ Piece.scan "/u/:a:b".toList, piece.isPlain := by
    rw [hscan]
    decide
  have hfree : ∀ name ∈ captureNames "/u/:a:b", Params.empty.get? name = none := fun _ _ => rfl
  have hcompile : compile "/u/:a:b" .empty = .ok (plainPattern "/u/:a:b" .empty) := by
    rw [compile_plain hplain hfree, hscan]
    rfl
  have hfirst : (fillings (Piece.scan "/u/:a:b".toList) "/u/xyz/".toList).head? =
      some [['x', 'y'], ['z']] := by
    rw [hscan]
    decide
  obtain ⟨hfits, hgreatest⟩ := head?_fillings_eq_some_iff.mp hfirst
  have hnames : captureNames "/u/:a:b" = ["a", "b"] := by
    rw [captureNames, hscan]
    rfl
  refine ⟨hcompile, ((plain_isMatch_and_captures hcompile hplain hfree "/u/xyz/").2.2 _).mpr ?_⟩
  exact ⟨_, hfits, hgreatest, by rw [hnames]; rfl⟩

end Pattern

end PathRouter
