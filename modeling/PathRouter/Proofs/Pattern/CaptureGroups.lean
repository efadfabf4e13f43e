import PathRouter.Proofs.Pattern.Emitted
import PathRouter.Proofs.Regex.Openings

/-!
# Which group a capture reads

A pattern writes a group into its expression for each capture, and finds the value of the capture
again by the name of that group. Literal text and conditions stand in the expression as they are,
so the group that was written need not be a group when the expression is read.

* `emitted` lists where in the expression the groups of the captures are written;
  `drop_of_getElem?_emitted` and `pairwise_emitted` describe the list.
* `groupIndex` is the number of the group that a capture reads, and `ReadsAt` tells where that group
  opens.
* `readsAt_iff_mem_openings`: a capture reads the group written for it exactly if that group is
  among the openings of the expression; and then later captures read later groups
  (`groupIndex_lt`).
* `groupIndex_of_not_readsAt`: otherwise it reads a group of the same name which the pattern did not
  write, or there is none and it reads the whole match. This happens, for instance, in a class.
-/

namespace PathRouter.Pattern

open Regex (Opening Token)

theorem rel_of_getElem? {α : Type} {R : α → α → Prop} {l : List α} (h : l.Pairwise R) {m n : Nat}
    {a b : α} (ha : l[m]? = some a) (hb : l[n]? = some b) (hlt : m < n) : R a b := by
  obtain ⟨hm, rfl⟩ := List.getElem?_eq_some_iff.mp ha
  obtain ⟨hn, rfl⟩ := List.getElem?_eq_some_iff.mp hb
  exact List.pairwise_iff_getElem.mp h m n hm hn hlt

/-! ## Where the groups are written -/

/-- Where the groups of some pieces open in the text of their expression, if the first piece starts
at `start` and the first capture among them is number `index`. -/
def emittedFrom (conditions : Conditions) (start index : Nat) : List Piece → List Nat
  | [] => []
  | .literal text :: rest => emittedFrom conditions (start + text.length) index rest
  | .capture name :: rest =>
    start :: emittedFrom conditions
      (start + (groupText index (inner conditions name)).length) (index + 1) rest

/-- Where the groups of the captures open in the expression of a pattern, in the order of the
captures. -/
def emitted (source : String) (conditions : Conditions) : List Nat :=
  emittedFrom conditions 1 0 (Piece.scan source.toList)

theorem length_emittedFrom (conditions : Conditions) (start index : Nat) (pieces : List Piece) :
    (emittedFrom conditions start index pieces).length = (Piece.names pieces).length := by
  fun_induction emittedFrom conditions start index pieces with
  | case1 => rfl
  | case2 start index text rest ih => exact ih
  | case3 start index name rest ih => exact congrArg (· + 1) ih

theorem le_of_mem_emittedFrom {conditions : Conditions} {start index offset : Nat}
    {pieces : List Piece} (h : offset ∈ emittedFrom conditions start index pieces) :
    start ≤ offset := by
  fun_induction emittedFrom conditions start index pieces with
  | case1 => cases h
  | case2 start index text rest ih => exact Nat.le_of_add_right_le (ih h)
  | case3 start index name rest ih =>
    rcases List.mem_cons.mp h with rfl | h
    · exact Nat.le_refl _
    · exact Nat.le_of_add_right_le (ih h)

/-- Later captures are written further on. -/
theorem pairwise_emittedFrom (conditions : Conditions) (start index : Nat) (pieces : List Piece) :
    (emittedFrom conditions start index pieces).Pairwise (· < ·) := by
  fun_induction emittedFrom conditions start index pieces with
  | case1 => exact .nil
  | case2 start index text rest ih => exact ih
  | case3 start index name rest ih =>
    refine List.pairwise_cons.mpr ⟨fun offset hoffset => ?_, ih⟩
    have hle := le_of_mem_emittedFrom hoffset
    -- the text of a group is not empty
    have hlength : 0 < (groupText index (inner conditions name)).length := by
      rw [groupText_eq]
      exact Nat.succ_pos _
    omega

/-- The group of a capture stands where it is said to. `front` is what stands before the pieces. -/
theorem drop_of_getElem?_emittedFrom {conditions : Conditions} {pieces : List Piece}
    (front : List Char) {index i offset : Nat}
    (h : (emittedFrom conditions front.length index pieces)[i]? = some offset)
    (behind : List Char) :
    ∃ name rest, (Piece.names pieces)[i]? = some name ∧
      (front ++ (body conditions index pieces ++ behind)).drop offset =
        groupText (index + i) (inner conditions name) ++ rest := by
  induction pieces generalizing front index i with
  | nil => cases h
  | cons piece pieces ih =>
    cases piece with
    | literal text =>
      rw [emittedFrom, ← List.length_append] at h
      obtain ⟨name, rest, hname, hdrop⟩ := ih _ h
      refine ⟨name, rest, hname, ?_⟩
      rw [← hdrop, body]
      simp only [List.append_assoc]
    | capture name =>
      rw [emittedFrom] at h
      cases i with
      | zero =>
        -- the capture itself: its group is the first that stands behind `front`
        cases h
        refine ⟨name, body conditions (index + 1) pieces ++ behind, rfl, ?_⟩
        rw [List.drop_left, body, List.append_assoc]
        rfl
      | succ i =>
        rw [List.getElem?_cons_succ, ← List.length_append] at h
        obtain ⟨name', rest, hname, hdrop⟩ := ih _ h
        refine ⟨name', rest, hname, ?_⟩
        rw [Nat.add_right_comm, Nat.add_assoc] at hdrop
        rw [← hdrop, body]
        simp only [List.append_assoc]

theorem pairwise_emitted (source : String) (conditions : Conditions) :
    (emitted source conditions).Pairwise (· < ·) :=
  pairwise_emittedFrom conditions 1 0 _

/-- For each capture there is one place, and at that place the group of the capture is written. -/
theorem drop_of_getElem?_emitted {source : String} {conditions : Conditions} {i offset : Nat}
    (h : (emitted source conditions)[i]? = some offset) :
    ∃ name rest, (Piece.names (Piece.scan source.toList))[i]? = some name ∧
      (assemble source conditions).toList.drop offset =
        groupText i (inner conditions name) ++ rest := by
  have hfrom := drop_of_getElem?_emittedFrom ['^'] h "/?$".toList
  rw [Nat.zero_add] at hfrom
  rw [assemble, String.toList_ofList]
  exact hfrom

/-! ## Which group is read -/

/-- The openings of the groups of a pattern's expression, in the order in which the groups are
numbered from one on. -/
def openings (p : Pattern) : List Opening := Regex.openings p.expression.toList

/-- The number of the group that the capture number `i` reads. Number zero is the whole match, which
has no name; it is read if no group has the name. -/
def groupIndex (p : Pattern) (i : Nat) : Nat :=
  ((none :: p.regex.groups).idxOf? (some (groupName i))).getD 0

/-- The capture number `i` reads a group, and that group opens at `offset`. -/
def ReadsAt (p : Pattern) (i offset : Nat) : Prop :=
  ∃ k opening, p.groupIndex i = k + 1 ∧ p.openings[k]? = some opening ∧ opening.offset = offset

/-- What a pattern that is ready for use is made of. -/
theorem parse_of_compile {source : String} {conditions : Conditions} {p : Pattern}
    (h : compile source conditions = .ok p) :
    p.expression = assemble source conditions ∧ p.names = captureNames source ∧
      Regex.Expr.parse p.expression.toList = .ok p.regex.expr := by
  unfold compile at h
  split at h
  · next regex hregex =>
    cases h
    unfold Regex.compile at hregex
    split at hregex
    · cases hregex
    · next expr hparse =>
      split at hregex
      · cases hregex
      · cases hregex
        exact ⟨rfl, rfl, hparse⟩
  · cases h

/-- A pattern of which something can be computed is ready for use. -/
theorem exists_of_map_compile {source : String} {conditions : Conditions} {α : Type}
    {f : Pattern → α} {a : α} (h : (compile source conditions).toOption.map f = some a) :
    ∃ p, compile source conditions = .ok p ∧ f p = a := by
  cases hcompile : compile source conditions with
  | error e =>
    rw [hcompile] at h
    cases h
  | ok p =>
    rw [hcompile] at h
    exact ⟨p, rfl, Option.some.inj h⟩

section Compiled

variable {source : String} {conditions : Conditions} {p : Pattern}

/-- The groups of the expression are its openings. -/
theorem groups_eq (h : compile source conditions = .ok p) :
    p.regex.groups = p.openings.map (·.name) :=
  Regex.groups_eq_openings (parse_of_compile h).2.2

/-- An opening at the place of a capture has the name of that capture's group. -/
theorem name_of_mem_openings (h : compile source conditions = .ok p) {i : Nat}
    {opening : Opening} (hopening : opening ∈ p.openings)
    (hemitted : (emitted source conditions)[i]? = some opening.offset) :
    opening.name = some (groupName i) := by
  obtain ⟨hexpression, -, hparse⟩ := parse_of_compile h
  obtain ⟨f, c, tail, left, hdrop, hread⟩ := Regex.read_of_mem_openings hparse hopening
  obtain ⟨name, rest, -, htext⟩ := drop_of_getElem?_emitted hemitted
  -- whatever flags are in force there, what is read is the opening of that group
  obtain ⟨tail', htail, hread'⟩ := run_read_groupText f i (inner conditions name) rest
  rw [hexpression, htext, htail] at hdrop
  obtain ⟨rfl, rfl⟩ := List.cons.inj hdrop
  rw [hread'] at hread
  simp only [Except.ok.injEq, Prod.mk.injEq, Token.openGroup.injEq, Regex.GroupKind.capture.injEq]
    at hread
  exact hread.1.symm

/-- A group has the number of the opening that has its name. -/
theorem groupIndex_eq_succ (h : compile source conditions = .ok p) {i k : Nat} :
    p.groupIndex i = k + 1 ↔
      ∃ opening, p.openings[k]? = some opening ∧ opening.name = some (groupName i) := by
  -- two openings with one name would be a fault of the expression
  have hunique {m n : Nat} {a b : Opening} (ha : p.openings[m]? = some a)
      (hb : p.openings[n]? = some b) (haname : a.name = some (groupName i))
      (hbname : b.name = some (groupName i)) : ¬m < n := fun hlt =>
    have hnodup := Regex.nodup_names_openings (parse_of_compile h).2.2
    rel_of_getElem? (List.pairwise_filterMap.mp hnodup) ha hb hlt _ haname _ hbname rfl
  have hindex : p.groupIndex i = k + 1 ↔
      (p.openings.map (·.name)).idxOf? (some (groupName i)) = some k := by
    unfold groupIndex
    rw [groups_eq h, List.idxOf?_cons]
    cases (p.openings.map (·.name)).idxOf? (some (groupName i)) <;> simp
  rw [hindex, List.idxOf?_eq_some_iff]
  constructor
  · rintro ⟨hk, hname, -⟩
    rw [List.getElem_map] at hname
    exact ⟨_, List.getElem?_eq_getElem _, hname⟩
  · rintro ⟨opening, hopening, hname⟩
    obtain ⟨hk, rfl⟩ := List.getElem?_eq_some_iff.mp hopening
    refine ⟨by rwa [List.length_map], by rwa [List.getElem_map], fun j hj hjname => ?_⟩
    rw [List.getElem_map] at hjname
    exact hunique (List.getElem?_eq_getElem _) hopening hjname hname hj

/-- Openings that stand further on belong to groups with greater numbers. -/
theorem index_lt_of_offset_lt (h : compile source conditions = .ok p) {k k' : Nat}
    {a b : Opening} (ha : p.openings[k]? = some a) (hb : p.openings[k']? = some b)
    (hlt : a.offset < b.offset) : k < k' := by
  have hpairwise := Regex.pairwise_openings (parse_of_compile h).2.2
  rcases Nat.lt_trichotomy k k' with hk | rfl | hk
  · exact hk
  · obtain rfl := Option.some.inj (ha.symm.trans hb)
    exact absurd hlt (Nat.lt_irrefl _)
  · exact absurd hlt (Nat.lt_asymm (rel_of_getElem? hpairwise hb ha hk))

/-- A capture reads the group that was written for it if that group is one. -/
theorem readsAt_iff_mem_openings (h : compile source conditions = .ok p) {i offset : Nat}
    (hemitted : (emitted source conditions)[i]? = some offset) :
    p.ReadsAt i offset ↔ offset ∈ p.openings.map (·.offset) := by
  constructor
  · rintro ⟨k, opening, -, hopening, rfl⟩
    exact List.mem_map_of_mem (List.mem_of_getElem? hopening)
  · intro hmem
    obtain ⟨opening, hopening, rfl⟩ := List.mem_map.mp hmem
    obtain ⟨k, hk⟩ := List.mem_iff_getElem?.mp hopening
    have hname := name_of_mem_openings h hopening hemitted
    exact ⟨k, opening, (groupIndex_eq_succ h).mpr ⟨opening, hk, hname⟩, hk, rfl⟩

/-- What a capture reads otherwise: the whole match or a group that the pattern did not write. -/
theorem groupIndex_of_not_readsAt (h : compile source conditions = .ok p) {i offset : Nat}
    (hemitted : (emitted source conditions)[i]? = some offset) (hnot : ¬p.ReadsAt i offset) :
    p.groupIndex i = 0 ∨ ∃ other, other ∉ emitted source conditions ∧ p.ReadsAt i other := by
  cases hindex : p.groupIndex i with
  | zero => exact .inl rfl
  | succ k =>
    obtain ⟨opening, hopening, hname⟩ := (groupIndex_eq_succ h).mp hindex
    -- a place of another capture would give the group another name
    refine .inr ⟨opening.offset, fun hmem => hnot ?_, k, opening, hindex, hopening, rfl⟩
    obtain ⟨j, hj⟩ := List.mem_iff_getElem?.mp hmem
    have hname' := name_of_mem_openings h (List.mem_of_getElem? hopening) hj
    have hij : j = i := groupName_inj.mp (Option.some.inj (hname'.symm.trans hname))
    rw [hij, hemitted] at hj
    exact ⟨k, opening, hindex, hopening, (Option.some.inj hj).symm⟩

theorem groupIndex_lt (h : compile source conditions = .ok p) {i j offset offset' : Nat}
    (hi : (emitted source conditions)[i]? = some offset)
    (hj : (emitted source conditions)[j]? = some offset') (hij : i < j)
    (hreads : p.ReadsAt i offset) (hreads' : p.ReadsAt j offset') :
    p.groupIndex i < p.groupIndex j := by
  obtain ⟨k, a, hindex, ha, rfl⟩ := hreads
  obtain ⟨k', b, hindex', hb, rfl⟩ := hreads'
  have hlt := rel_of_getElem? (pairwise_emitted source conditions) hi hj hij
  rw [hindex, hindex']
  exact Nat.succ_lt_succ (index_lt_of_offset_lt h ha hb hlt)

end Compiled

/-- The value of a capture is the text of the group with its number. -/
theorem captured_eq (p : Pattern) (path : List Char) (m : Regex.Match) (i : Nat) :
    p.captured path m i =
      if p.groupIndex i = 0 then m.whole path else (m.group? path (groupName i)).getD [] := by
  have hindex : p.groupIndex i = 0 ↔ p.regex.hasGroup (groupName i) = false := by
    unfold groupIndex Regex.hasGroup
    rw [List.idxOf?_cons, List.contains_eq_mem]
    cases hidx : p.regex.groups.idxOf? (some (groupName i)) with
    | none => simpa using List.idxOf?_eq_none_iff.mp hidx
    | some k =>
      have hmem := List.isSome_idxOf?.mp (Option.isSome_of_eq_some hidx)
      simpa using hmem
  unfold captured
  by_cases hgroup : p.regex.hasGroup (groupName i)
  · rw [if_pos hgroup, if_neg (by simp [hindex, hgroup])]
  · rw [if_neg hgroup, if_pos (hindex.mpr (by simpa using hgroup))]

/-- **Which group a capture reads.** The group for the capture number `i` is written at one place of
the expression, `offset`. The capture reads that group exactly if the parser opens a group there and
keeps it; then captures read groups in their own order. If it does not, the capture reads a group of
the same name that the pattern did not write, or the whole match. The value of the capture is what
the group with its number matched. -/
theorem readsAt_emitted_iff {source : String} {conditions : Conditions} {p : Pattern}
    (hcompile : compile source conditions = .ok p) :
    p.regex.groups = p.openings.map (·.name) ∧
      (emitted source conditions).length = p.names.length ∧
      ∀ i offset, (emitted source conditions)[i]? = some offset →
        (∃ name rest, p.names[i]? = some (String.ofList name) ∧
          p.expression.toList.drop offset = groupText i (inner conditions name) ++ rest) ∧
        (p.ReadsAt i offset ↔ offset ∈ p.openings.map (·.offset)) ∧
        (p.ReadsAt i offset → ∀ j offset', (emitted source conditions)[j]? = some offset' →
          i < j → p.ReadsAt j offset' → p.groupIndex i < p.groupIndex j) ∧
        (¬p.ReadsAt i offset → p.groupIndex i = 0 ∨
          ∃ other, other ∉ emitted source conditions ∧ p.ReadsAt i other) ∧
        (∀ k, p.groupIndex i = k + 1 → p.regex.groups[k]? = some (some (groupName i))) ∧
        ∀ path captures, p.captures path = some captures →
          ∃ m name, p.regex.find? path.toList = some m ∧ p.names[i]? = some name ∧
            captures[i]? = some (name, String.ofList
              (if p.groupIndex i = 0 then m.whole path.toList
                else (m.group? path.toList (groupName i)).getD [])) := by
  obtain ⟨hexpression, hnames, -⟩ := parse_of_compile hcompile
  refine ⟨groups_eq hcompile, ?_, fun i offset hemitted => ?_⟩
  · rw [hnames, captureNames, List.length_map]
    exact length_emittedFrom conditions 1 0 _
  obtain ⟨name, rest, hname, hdrop⟩ := drop_of_getElem?_emitted hemitted
  have hsource : p.names[i]? = some (String.ofList name) := by
    rw [hnames, captureNames, List.getElem?_map, hname]
    rfl
  refine ⟨⟨name, rest, hsource, by rw [hexpression, hdrop]⟩,
    readsAt_iff_mem_openings hcompile hemitted, ?_,
    groupIndex_of_not_readsAt hcompile hemitted, ?_, ?_⟩
  · intro hreads j offset' hemitted' hij hreads'
    exact groupIndex_lt hcompile hemitted hemitted' hij hreads hreads'
  · intro k hindex
    obtain ⟨opening, hopening, hbears⟩ := (groupIndex_eq_succ hcompile).mp hindex
    rw [groups_eq hcompile, List.getElem?_map, hopening, ← hbears]
    rfl
  · intro path captures hcaptures
    obtain ⟨m, hfind, rfl⟩ := Option.map_eq_some_iff.mp hcaptures
    refine ⟨m, String.ofList name, hfind, hsource, ?_⟩
    rw [List.getElem?_mapIdx, hsource, captured_eq]
    rfl

/-- Groups in the literal text and in a condition do not come between a capture and its group. -/
theorem readsAt_amongOthers :
    ∃ p, compile "/(a|b)/:id/:x" (Params.empty.insert "id" "(c)d") = .ok p ∧
      p.ReadsAt 0 8 ∧ p.ReadsAt 1 23 ∧ p.groupIndex 0 < p.groupIndex 1 := by
  have hemitted : emitted "/(a|b)/:id/:x" (Params.empty.insert "id" "(c)d") = [8, 23] := by
    decide +kernel
  have hopenings : (Regex.openings (assemble "/(a|b)/:id/:x"
      (Params.empty.insert "id" "(c)d")).toList).map (·.offset) = [2, 8, 17, 23] := by
    decide +kernel
  have hok : (compile "/(a|b)/:id/:x" (Params.empty.insert "id" "(c)d")).isOk := by
    decide +kernel
  cases hcompile : compile "/(a|b)/:id/:x" (Params.empty.insert "id" "(c)d") with
  | error e =>
    rw [hcompile] at hok
    cases hok
  | ok p =>
    rw [← (parse_of_compile hcompile).1] at hopenings
    have hreads := (readsAt_emitted_iff hcompile).2.2
    rw [hemitted] at hreads
    obtain ⟨-, hid, hless, -⟩ := hreads 0 8 rfl
    obtain ⟨-, hx, -⟩ := hreads 1 23 rfl
    have hid' : p.ReadsAt 0 8 := hid.mpr (by simp only [openings, hopenings]; decide)
    have hx' : p.ReadsAt 1 23 := hx.mpr (by simp only [openings, hopenings]; decide)
    exact ⟨p, rfl, hid', hx', hless hid' 1 23 rfl (by decide) hx'⟩

/-- In a class the text of the group is a set of characters: there is no group, and the capture
reads the whole match. -/
theorem captures_inClass :
    (compile "/[:id]" .empty).toOption.map
        (fun p => (p.regex.groups, p.groupIndex 0, p.captures "/a")) =
      some ([], 0, some [("id", "/a")]) := by
  decide +kernel

end PathRouter.Pattern
