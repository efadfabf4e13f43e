import Mathlib.Data.List.TakeWhile
import PathRouter.Service.Uri

/-!
# The path of a request target

A request target comes in four forms (`Uri.HasPath`), and in each of them the path is a stretch of
the text: it begins the text or stands behind a scheme and an authority, and it ends before the
query or the fragment. `hasPath_iff_of_parse?` is that reading a target finds just that stretch,
whatever else the target consists of. It rests on one case lemma for what reading a target can come
to (`cases_of_parse?`).
-/

namespace PathRouter.Uri

/-- Whether a path goes on with `c`. -/
def continuesPath (c : Char) : Bool := c ≠ '?' && c ≠ '#'

/-- The characters of a path, and a text that does not go on with it. -/
structure CutsPath (path tail : List Char) : Prop where
  path : ∀ c ∈ path, continuesPath c
  tail : ∀ c ∈ tail.head?, continuesPath c = false

/-- `text` is a request target with the given path. -/
inductive HasPath : (path text : List Char) → Prop
  /-- A path, with a query and a fragment or without. -/
  | origin {path tail : List Char} (hslash : path.head? = some '/') (hcut : CutsPath path tail) :
    HasPath path (path ++ tail)
  /-- The same behind a scheme and an authority, where the path may be empty. -/
  | absolute {scheme authority path tail : List Char} (hscheme : ∀ c ∈ scheme, isSchemeChar c)
    (hauthority : ∀ c ∈ authority, endsAuthority c = false) (hslash : ∀ c ∈ path.head?, c = '/')
    (hcut : CutsPath path tail) :
    HasPath path (scheme ++ "://".toList ++ (authority ++ (path ++ tail)))
  /-- An authority alone. -/
  | authority {text : List Char} (h : ∀ c ∈ text, endsAuthority c = false) (hne : text ≠ ['*']) :
    HasPath [] text
  | asterisk : HasPath ['*'] ['*']

/-! ## Where a path ends -/

theorem CutsPath.takeWhile_eq {path tail : List Char} (h : CutsPath path tail) :
    (path ++ tail).takeWhile continuesPath = path := by
  rw [List.takeWhile_append_of_pos h.path]
  cases tail with
  | nil => exact List.append_nil path
  | cons c tail => rw [List.takeWhile_cons_of_neg (by simp [h.tail c rfl]), List.append_nil]

theorem cutsPath_takeWhile (text : List Char) :
    CutsPath (text.takeWhile continuesPath) (text.dropWhile continuesPath) where
  path _ hc := List.mem_takeWhile_imp hc
  tail c hc := by
    have hhead := List.head?_dropWhile_not continuesPath text
    rw [Option.mem_def.mp hc] at hhead
    exact hhead

theorem rawPath_of_splitQuery? {scheme : Option (List Char)} {authority text : List Char} {u : Uri}
    (h : (splitQuery? text).map (make scheme authority) = some u) :
    u.rawPath = String.ofList (text.takeWhile continuesPath) := by
  obtain ⟨parts, hparts, rfl⟩ := Option.map_eq_some_iff.mp h
  have hpath : parts.1 = text.takeWhile continuesPath := by
    unfold splitQuery? at hparts
    simp only at hparts
    split at hparts
    · cases hparts
    · split at hparts
      · split at hparts
        · cases hparts
          rfl
        · cases hparts
      · cases hparts
        rfl
  rw [make, hpath]

/-! ## Schemes -/

theorem toLower_cases (c : Char) : c.toLower = c ∨ c.isUpper ∧ c.toLower.isLower := by
  unfold Char.toLower
  split
  · next h =>
    have hlow : 65 ≤ c.val.toNat := UInt32.le_iff_toNat_le.mp h.1
    have hhigh : c.val.toNat ≤ 90 := UInt32.le_iff_toNat_le.mp h.2
    have hsum : (c.val + 32).toNat = c.val.toNat + 32 := by
      rw [UInt32.toNat_add]
      refine Nat.mod_eq_of_lt ?_
      show c.val.toNat + 32 < 4294967296
      omega
    refine .inr ⟨decide_eq_true h, Bool.and_eq_true_iff.mpr ⟨decide_eq_true ?_, decide_eq_true ?_⟩⟩
    · show 97 ≤ (c.val + 32).toNat
      omega
    · show (c.val + 32).toNat ≤ 122
      omega
  · exact .inl rfl

/-- A character that is no letter is lower case only of itself. -/
theorem eq_of_toLower_eq {c d : Char} (h : c.toLower = d) (hd : d.isLower = false) : c = d := by
  rcases toLower_cases c with hc | ⟨-, hlower⟩
  · rw [← h, hc]
  · rw [h, hd] at hlower
    cases hlower

theorem eq_of_map_toLower_eq {text lower : List Char} (h : text.map Char.toLower = lower)
    (hlower : lower.all (!·.isLower)) : text = lower := by
  induction text generalizing lower with
  | nil => exact h
  | cons c text ih =>
    subst h
    rw [List.map_cons, List.all_cons, Bool.and_eq_true, Bool.not_eq_true'] at hlower
    rw [List.map_cons, ← ih rfl hlower.2, ← eq_of_toLower_eq rfl hlower.1]

theorem isSchemeChar_of_toLower {c : Char} (h : isSchemeChar c.toLower) : isSchemeChar c := by
  rcases toLower_cases c with hc | ⟨hupper, -⟩
  · rwa [hc] at h
  · show ((c.isUpper || c.isLower) || c.isDigit || _) = true
    rw [hupper]
    rfl

theorem drop_length_takeWhile (p : Char → Bool) (text : List Char) :
    text.drop (text.takeWhile p).length = text.dropWhile p := by
  calc text.drop (text.takeWhile p).length
      = (text.takeWhile p ++ text.dropWhile p).drop (text.takeWhile p).length := by
        rw [List.takeWhile_append_dropWhile]
    _ = text.dropWhile p := List.drop_left

/-- A scheme that is known in either case, with what stands behind it. -/
theorem exists_of_map_toLower {text : List Char} {n : Nat} (name : List Char)
    (hname : name.all isSchemeChar) (h : (text.take n).map Char.toLower = name ++ "://".toList) :
    ∃ scheme, text = scheme ++ "://".toList ++ text.drop n ∧ ∀ c ∈ scheme, isSchemeChar c := by
  obtain ⟨scheme, sign, htake, hscheme, hsign⟩ := List.map_eq_append_iff.mp h
  have hkept : sign = "://".toList := eq_of_map_toLower_eq hsign (by decide)
  refine ⟨scheme, ?_, fun c hc => isSchemeChar_of_toLower (List.all_eq_true.mp hname _ ?_)⟩
  · rw [← hkept, ← htake, List.take_append_drop]
  · rw [← hscheme]
    exact List.mem_map_of_mem hc

theorem readScheme_eq_found {text scheme rest : List Char}
    (h : readScheme text = .found scheme rest) :
    ∃ written, text = written ++ "://".toList ++ rest ∧ ∀ c ∈ written, isSchemeChar c := by
  unfold readScheme at h
  split at h
  · next hhttp =>
    cases h
    exact exists_of_map_toLower "http".toList (by decide) hhttp
  · split at h
    · next hhttps =>
      cases h
      exact exists_of_map_toLower "https".toList (by decide) hhttps
    · simp only at h
      split at h
      · next rest' hdrop =>
        split at h
        · cases h
        · split at h
          · cases h
          · cases h
            rw [drop_length_takeWhile] at hdrop
            refine ⟨text.takeWhile isSchemeChar, ?_, fun c hc => List.mem_takeWhile_imp hc⟩
            calc text = text.takeWhile isSchemeChar ++ text.dropWhile isSchemeChar :=
                List.takeWhile_append_dropWhile.symm
              _ = text.takeWhile isSchemeChar ++ "://".toList ++ rest := by
                rw [hdrop, List.append_assoc]
                rfl
      · cases h

/-! ## Authorities -/

theorem endsAuthority_iff {c : Char} : endsAuthority c ↔ c = '/' ∨ c = '?' ∨ c = '#' := by
  simp [endsAuthority, or_assoc]

theorem endsAuthority_of_step {s s' : AuthorityState} {c : Char} (h : s.step c = some s') :
    endsAuthority c = false := by
  cases hends : endsAuthority c with
  | false => rfl
  | true =>
    rcases endsAuthority_iff.mp hends with rfl | rfl | rfl <;> cases h

theorem endsAuthority_of_isAuthority {text : List Char} (h : isAuthority text) :
    ∀ c ∈ text, endsAuthority c = false := by
  -- each character has been taken in by a step, from whatever state
  have hrun : ∀ (text : List Char) (s s' : AuthorityState),
      text.foldlM AuthorityState.step s = some s' → ∀ c ∈ text, endsAuthority c = false := by
    intro text
    induction text with
    | nil => nofun
    | cons c text ih =>
      intro s s' h
      rw [List.foldlM_cons] at h
      obtain ⟨next, hstep, hrest⟩ := Option.bind_eq_some_iff.mp h
      exact List.forall_mem_cons.mpr ⟨endsAuthority_of_step hstep, ih next s' hrest⟩
  rw [isAuthority, Option.any_eq_true] at h
  obtain ⟨s', hs', -⟩ := h
  exact hrun text _ s' hs'

/-! ## Targets -/

/-- **The four outcomes of reading a target.** -/
theorem cases_of_parse? {s : String} {u : Uri} (h : parse? s = some u) :
    (s.toList = ['*'] ∧ u.rawPath = "*") ∨
      (s.toList.head? = some '/' ∧
        u.rawPath = String.ofList (s.toList.takeWhile continuesPath)) ∨
      ((∀ c ∈ s.toList, endsAuthority c = false) ∧ s.toList ≠ ['*'] ∧ u.rawPath = "") ∨
      ∃ scheme rest, s.toList = scheme ++ "://".toList ++ rest ∧ (∀ c ∈ scheme, isSchemeChar c) ∧
        u.rawPath = String.ofList
          ((rest.dropWhile fun c => !endsAuthority c).takeWhile continuesPath) := by
  unfold parse? at h
  simp only at h
  split at h
  · cases h
  · split at h
    · cases h
    · next heq =>
      cases h
      exact .inl ⟨heq, rfl⟩
    · next rest heq =>
      exact .inr (.inl ⟨by rw [heq]; rfl, rawPath_of_splitQuery? h⟩)
    · next hne hstar hslash =>
      split at h
      · cases h
      · next habsent =>
        split at h
        · next hauthority =>
          cases h
          exact .inr (.inr (.inl ⟨endsAuthority_of_isAuthority hauthority, hstar, rfl⟩))
        · cases h
      · next scheme rest hfound =>
        obtain ⟨written, htext, hwritten⟩ := readScheme_eq_found hfound
        split at h
        · cases h
        · refine .inr (.inr (.inr ⟨written, rest, htext, hwritten, ?_⟩))
          rw [rawPath_of_splitQuery? h, drop_length_takeWhile]

/-- Behind an authority, a path begins with a slash or is empty. -/
theorem slash_of_behind_authority (text : List Char) :
    ∀ c ∈ ((text.dropWhile fun c => !endsAuthority c).takeWhile continuesPath).head?, c = '/' := by
  have hhead := List.head?_dropWhile_not (fun c => !endsAuthority c) text
  cases hdrop : text.dropWhile fun c => !endsAuthority c with
  | nil => nofun
  | cons d rest =>
    rw [hdrop] at hhead
    have hends : endsAuthority d = true := by simpa using hhead
    rcases endsAuthority_iff.mp hends with rfl | rfl | rfl
    · rintro _ ⟨⟩
      rfl
    all_goals nofun

theorem dropWhile_path {path tail : List Char} (hslash : ∀ c ∈ path.head?, c = '/')
    (hcut : CutsPath path tail) :
    (path ++ tail).dropWhile (fun c => !endsAuthority c) = path ++ tail := by
  cases path with
  | cons c path =>
    rw [List.cons_append, List.dropWhile_cons_of_neg]
    rw [hslash c rfl]
    decide
  | nil =>
    cases tail with
    | nil => rfl
    | cons c tail =>
      -- what follows an empty path does not go on with it
      have hc : c = '?' ∨ c = '#' := by
        have hstop := hcut.tail c rfl
        by_cases hquery : c = '?'
        · exact .inl hquery
        · exact .inr (by simpa [continuesPath, hquery] using hstop)
      rw [List.nil_append, List.dropWhile_cons_of_neg]
      rcases hc with rfl | rfl <;> decide

theorem hasPath_of_slash {text : List Char} (h : text.head? = some '/') :
    HasPath (text.takeWhile continuesPath) text := by
  have hhead : (text.takeWhile continuesPath).head? = some '/' := by
    obtain ⟨rest, rfl⟩ := List.head?_eq_some_iff.mp h
    rfl
  have horigin := HasPath.origin hhead (cutsPath_takeWhile text)
  rwa [List.takeWhile_append_dropWhile] at horigin

theorem hasPath_of_parse? {s : String} {u : Uri} (h : parse? s = some u) :
    HasPath u.rawPath.toList s.toList := by
  rcases cases_of_parse? h with ⟨htext, hpath⟩ | ⟨hslash, hpath⟩ | ⟨htext, hne, hpath⟩ |
    ⟨scheme, rest, htext, hscheme, hpath⟩
  · rw [htext, hpath]
    exact .asterisk
  · rw [hpath, String.toList_ofList]
    exact hasPath_of_slash hslash
  · rw [hpath]
    exact .authority htext hne
  · rw [hpath, String.toList_ofList, htext]
    have hauthority : ∀ c ∈ rest.takeWhile fun c => !endsAuthority c, endsAuthority c = false :=
      fun c hc => by simpa using List.mem_takeWhile_imp hc
    have habsolute := HasPath.absolute hscheme hauthority (slash_of_behind_authority rest)
      (cutsPath_takeWhile (rest.dropWhile fun c => !endsAuthority c))
    rwa [List.takeWhile_append_dropWhile, List.takeWhile_append_dropWhile] at habsolute

theorem head?_scheme_ne_slash {scheme rest : List Char} (h : ∀ c ∈ scheme, isSchemeChar c) :
    (scheme ++ "://".toList ++ rest).head? ≠ some '/' := by
  cases scheme with
  | nil => nofun
  | cons c scheme =>
    rintro ⟨⟩
    exact absurd (h '/' List.mem_cons_self) (by decide)

theorem rest_eq_of_scheme {scheme scheme' rest rest' : List Char}
    (h : ∀ c ∈ scheme, isSchemeChar c) (h' : ∀ c ∈ scheme', isSchemeChar c)
    (heq : scheme ++ "://".toList ++ rest = scheme' ++ "://".toList ++ rest') : rest = rest' := by
  have hdrop (scheme rest : List Char) (h : ∀ c ∈ scheme, isSchemeChar c) :
      (scheme ++ "://".toList ++ rest).dropWhile isSchemeChar = "://".toList ++ rest := by
    rw [List.append_assoc, List.dropWhile_append_of_pos h]
    exact List.dropWhile_cons_of_neg (by decide)
  have hrest : "://".toList ++ rest = "://".toList ++ rest' := by
    rw [← hdrop scheme rest h, heq, hdrop scheme' rest' h']
  exact List.append_cancel_left hrest

theorem rawPath_of_hasPath {s : String} {u : Uri} {path : List Char} (h : parse? s = some u)
    (hpath : HasPath path s.toList) : u.rawPath = String.ofList path := by
  -- each form leaves one outcome: an asterisk and an authority have no slash, a scheme has one, and
  -- only a path begins with one
  have houtcome := cases_of_parse? h
  generalize s.toList = text at hpath houtcome
  have hslash_mem (scheme rest : List Char) : '/' ∈ scheme ++ "://".toList ++ rest := by simp
  cases hpath with
  | @origin path tail hslash hcut =>
    have hmem : '/' ∈ path ++ tail :=
      List.mem_append_left _ (List.mem_of_head? (by rw [hslash]))
    have hhead : (path ++ tail).head? = some '/' := by
      rw [List.head?_append, hslash, Option.some_or]
    rcases houtcome with ⟨htext, -⟩ | ⟨-, hread⟩ | ⟨hends, -⟩ | ⟨scheme, rest, htext, hscheme, -⟩
    · rw [htext] at hmem
      exact absurd hmem (by decide)
    · rw [hread, hcut.takeWhile_eq]
    · exact absurd (hends '/' hmem) (by decide)
    · exact absurd (htext ▸ hhead) (head?_scheme_ne_slash hscheme)
  | @absolute scheme authority path tail hscheme hauthority hslash hcut =>
    rcases houtcome with ⟨htext, -⟩ | ⟨hhead, -⟩ | ⟨hends, -⟩ |
      ⟨scheme', rest, htext, hscheme', hread⟩
    · have hmem := hslash_mem scheme (authority ++ (path ++ tail))
      rw [htext] at hmem
      exact absurd hmem (by decide)
    · exact absurd hhead (head?_scheme_ne_slash hscheme)
    · exact absurd (hends '/' (hslash_mem _ _)) (by decide)
    · rw [hread, ← rest_eq_of_scheme hscheme hscheme' htext,
        List.dropWhile_append_of_pos (by simpa using hauthority), dropWhile_path hslash hcut,
        hcut.takeWhile_eq]
  | authority hends hne =>
    rcases houtcome with ⟨htext, -⟩ | ⟨hhead, -⟩ | ⟨-, -, hread⟩ | ⟨scheme, rest, rfl, -, -⟩
    · exact absurd htext hne
    · exact absurd (hends '/' (List.mem_of_head? hhead)) (by decide)
    · exact hread
    · exact absurd (hends '/' (hslash_mem _ _)) (by decide)
  | asterisk =>
    rcases houtcome with ⟨-, hread⟩ | ⟨hhead, -⟩ | ⟨-, hne, -⟩ | ⟨scheme, rest, htext, -, -⟩
    · exact hread
    · exact absurd hhead (by decide)
    · exact absurd rfl hne
    · have hmem := hslash_mem scheme rest
      rw [← htext] at hmem
      exact absurd hmem (by decide)

/-- **Reading a target finds its path**, in each form and whatever else the target consists of. -/
theorem hasPath_iff_of_parse? {s : String} {u : Uri} (h : parse? s = some u) {path : List Char} :
    HasPath path s.toList ↔ u.rawPath = String.ofList path := by
  constructor
  · exact rawPath_of_hasPath h
  · intro hpath
    have hread := hasPath_of_parse? h
    rwa [hpath, String.toList_ofList] at hread

end PathRouter.Uri
