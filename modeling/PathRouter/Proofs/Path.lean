import PathRouter.Path

/-!
# Normal paths

A request target is a path and maybe a query behind it (`exists_eq_withQuery`). Of the two only the
path is looked at: it loses the directory in front of it, if it starts with that, and gets a slash
in front if it has none then (`normalize_withQuery`). What comes out starts with a slash and has no
question mark, and every such path does come out (`exists_normalize_eq_iff`). A directory without a
slash at its end is lost from its siblings, too (`normalize_of_append`, `normalize_sibling_ne`).
-/

namespace PathRouter.Path

/-- The target with the path `path` and, behind a question mark, the query `query`. -/
def withQuery (path : List Char) (query : Option (List Char)) : String :=
  String.ofList (path ++ query.elim [] ('?' :: ·))

/-! ## Leaving out the query -/

theorem not_mem_dropQuery (target : List Char) : '?' ∉ dropQuery target := by
  intro hmem
  have hne := List.all_eq_true.mp (List.all_takeWhile (p := (· ≠ '?')) (l := target)) '?' hmem
  exact absurd rfl (of_decide_eq_true hne)

theorem dropQuery_withQuery {path : List Char} (hpath : '?' ∉ path) (query : Option (List Char)) :
    dropQuery (withQuery path query).toList = path := by
  have hpos : ∀ c ∈ path, decide (c ≠ '?') = true := by
    intro c hc
    exact decide_eq_true (ne_of_mem_of_not_mem hc hpath)
  rw [withQuery, String.toList_ofList, dropQuery, List.takeWhile_append_of_pos hpos]
  cases query with
  | none => exact List.append_nil path
  | some query => exact List.append_nil path

theorem dropQuery_of_not_mem {path : List Char} (hpath : '?' ∉ path) : dropQuery path = path := by
  have hdrop := dropQuery_withQuery hpath none
  rwa [withQuery, String.toList_ofList, Option.elim_none, List.append_nil] at hdrop

theorem exists_eq_withQuery (target : String) :
    ∃ path query, '?' ∉ path ∧ target = withQuery path query := by
  refine ⟨dropQuery target.toList, ?_⟩
  -- what the path leaves is nothing, or a question mark and the query
  have hsplit : dropQuery target.toList ++ target.toList.dropWhile (· ≠ '?') = target.toList :=
    List.takeWhile_append_dropWhile
  cases hrest : target.toList.dropWhile (· ≠ '?') with
  | nil =>
    refine ⟨none, not_mem_dropQuery _, String.toList_inj.mp ?_⟩
    rw [hrest] at hsplit
    rw [withQuery, String.toList_ofList]
    exact hsplit.symm
  | cons c query =>
    obtain rfl : c = '?' := by
      have hhead := List.head?_dropWhile_not (fun c => decide (c ≠ '?')) target.toList
      rw [hrest] at hhead
      simpa using hhead
    refine ⟨some query, not_mem_dropQuery _, String.toList_inj.mp ?_⟩
    rw [hrest] at hsplit
    rw [withQuery, String.toList_ofList]
    exact hsplit.symm

/-! ## Leaving out the directory -/

theorem unmount_append (mount rest : List Char) : unmount mount (mount ++ rest) = rest := by
  unfold unmount
  rw [if_pos (by simp), List.drop_left]

theorem unmount_of_not_prefix {mount path : List Char} (h : ¬ mount <+: path) :
    unmount mount path = path := by
  unfold unmount
  rw [if_neg (by simpa using h)]

theorem unmount_suffix (mount path : List Char) : unmount mount path <:+ path := by
  unfold unmount
  split
  · exact List.drop_suffix _ _
  · exact List.suffix_refl _

/-! ## The slash in front -/

theorem head?_ensureSlash (path : List Char) : (ensureSlash path).head? = some '/' := by
  fun_cases ensureSlash path <;> rfl

theorem ensureSlash_of_head? {path : List Char} (h : path.head? = some '/') :
    ensureSlash path = path := by
  obtain ⟨rest, rfl⟩ := List.head?_eq_some_iff.mp h
  rfl

theorem ensureSlash_of_head?_ne {path : List Char} (h : path.head? ≠ some '/') :
    ensureSlash path = '/' :: path := by
  fun_cases ensureSlash path with
  | case1 rest => exact absurd rfl h
  | case2 hslash => rfl

theorem not_mem_ensureSlash {c : Char} {path : List Char} (hc : c ≠ '/') (h : c ∉ path) :
    c ∉ ensureSlash path := by
  fun_cases ensureSlash path with
  | case1 rest => exact h
  | case2 hslash => exact List.not_mem_cons_of_ne_of_not_mem hc h

/-! ## Normalizing -/

theorem normalize_withQuery {path : List Char} (hpath : '?' ∉ path) (query : Option (List Char))
    (subDir : String) :
    normalize (withQuery path query) subDir =
      String.ofList (ensureSlash (unmount subDir.toList path)) := by
  rw [normalize, dropQuery_withQuery hpath]

theorem normalize_ofList {path : List Char} (hpath : '?' ∉ path) (subDir : String) :
    normalize (String.ofList path) subDir =
      String.ofList (ensureSlash (unmount subDir.toList path)) := by
  rw [normalize, String.toList_ofList, dropQuery_of_not_mem hpath]

/-- What comes out has a slash in front and no query behind. -/
theorem exists_normalize_eq (target subDir : String) :
    ∃ rest, normalize target subDir = String.ofList ('/' :: rest) ∧ '?' ∉ rest := by
  obtain ⟨rest, hrest⟩ := List.head?_eq_some_iff.mp
    (head?_ensureSlash (unmount subDir.toList (dropQuery target.toList)))
  have hmark : '?' ∉ ensureSlash (unmount subDir.toList (dropQuery target.toList)) := by
    refine not_mem_ensureSlash (by decide) fun hmem => ?_
    exact not_mem_dropQuery _ ((unmount_suffix _ _).subset hmem)
  rw [hrest, List.mem_cons, not_or] at hmark
  exact ⟨rest, congrArg String.ofList hrest, hmark.2⟩

/-- A path with a slash in front and no query is normal for a router that is not mounted. -/
theorem normalize_of_slash {rest : List Char} (hrest : '?' ∉ rest) :
    normalize (String.ofList ('/' :: rest)) "" = String.ofList ('/' :: rest) := by
  have hpath : '?' ∉ '/' :: rest := List.not_mem_cons_of_ne_of_not_mem (by decide) hrest
  exact normalize_ofList hpath ""

theorem normalize_normalize (target : String) :
    normalize (normalize target "") "" = normalize target "" := by
  obtain ⟨rest, hnormal, hrest⟩ := exists_normalize_eq target ""
  rw [hnormal, normalize_of_slash hrest]

/-- **The normal paths are those with a slash in front and no query**, wherever the router is
mounted: a directory is put in front of what starts with it, so that it is lost instead. -/
theorem exists_normalize_eq_iff {path : List Char} (subDir : String) :
    (∃ target, normalize target subDir = String.ofList path) ↔
      path.head? = some '/' ∧ '?' ∉ path := by
  constructor
  · rintro ⟨target, htarget⟩
    obtain ⟨rest, hnormal, hrest⟩ := exists_normalize_eq target subDir
    obtain rfl : '/' :: rest = path := String.ofList_injective (hnormal.symm.trans htarget)
    exact ⟨rfl, List.not_mem_cons_of_ne_of_not_mem (by decide) hrest⟩
  · rintro ⟨hhead, hmark⟩
    by_cases hstarts : subDir.toList <+: path
    · have hmount : '?' ∉ subDir.toList ++ path := by
        rw [List.mem_append, not_or]
        exact ⟨fun hmem => hmark (hstarts.subset hmem), hmark⟩
      refine ⟨String.ofList (subDir.toList ++ path), ?_⟩
      rw [normalize_ofList hmount, unmount_append, ensureSlash_of_head? hhead]
    · refine ⟨String.ofList path, ?_⟩
      rw [normalize_ofList hmark, unmount_of_not_prefix hstarts, ensureSlash_of_head? hhead]

/-! ## Siblings of the directory

The directory is compared with the path character by character. If it does not end in a slash, then
what starts with it need not lie below it: `/appX` starts with `/app`. -/

section Sibling

variable {subDir target : String} {rest : List Char}

theorem normalize_of_append (htarget : dropQuery target.toList = subDir.toList ++ rest) :
    normalize target subDir = String.ofList (ensureSlash rest) := by
  rw [normalize, htarget, unmount_append]

/-- The path always loses something. -/
theorem normalize_sibling_ne (hsubDir : subDir.toList ≠ [])
    (hend : subDir.toList.getLast? ≠ some '/')
    (htarget : dropQuery target.toList = subDir.toList ++ rest) (hrest : rest.head? ≠ some '/') :
    normalize target subDir ≠ normalize target "" := by
  intro heq
  have hwhole : normalize target "" = String.ofList (ensureSlash (subDir.toList ++ rest)) := by
    rw [normalize, htarget]
    rfl
  rw [normalize_of_append htarget, hwhole, ensureSlash_of_head?_ne hrest] at heq
  have hpath : '/' :: rest = ensureSlash (subDir.toList ++ rest) := String.ofList_injective heq
  obtain ⟨c, cs, hcs⟩ := List.exists_cons_of_ne_nil hsubDir
  rw [hcs, List.cons_append] at hpath
  by_cases hc : c = '/'
  · -- nothing would stand in the directory behind its slash in front
    subst hc
    obtain rfl : cs = [] := by simpa [ensureSlash] using hpath
    rw [hcs] at hend
    exact hend rfl
  · have hhead : (c :: (cs ++ rest)).head? ≠ some '/' := by simpa using hc
    rw [ensureSlash_of_head?_ne hhead] at hpath
    have hlength := congrArg List.length hpath
    simp only [List.length_cons, List.length_append] at hlength
    omega

/-- With a slash at its end the directory is not at the front of such a path. -/
theorem normalize_sibling_slash (htarget : dropQuery target.toList = subDir.toList ++ rest)
    (hrest : rest.head? ≠ some '/') :
    normalize target (subDir ++ "/") = normalize target "" := by
  have hfront : ¬ (subDir ++ "/").toList <+: dropQuery target.toList := by
    rw [htarget, String.toList_append, List.prefix_append_right_inj]
    rintro ⟨later, rfl⟩
    exact hrest rfl
  rw [normalize, unmount_of_not_prefix hfront]
  rfl

end Sibling

end PathRouter.Path
