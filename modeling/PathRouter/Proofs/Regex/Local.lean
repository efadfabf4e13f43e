import Mathlib.Data.List.TakeWhile
import PathRouter.Proofs.Regex.Reading

/-!
# What stands behind a text does not count

A token is read without a look at what stands behind it, with few exceptions: a comment runs on to
the end of its line, and a quantifier takes a `?` that comes next. A reader is local
(`Reader.Local`) if it reads a text without `#` in the same way when a closing parenthesis stands
behind that, and whatever else after it. All the readers from which tokens are put together are
local, one lemma for each; `Token.local_read` is the last of them.
-/

namespace PathRouter.Regex

namespace Reader

variable {α β σ : Type}

/-- What the reader finds in a text without `#` it also finds where a closing parenthesis and more
text stand behind that. -/
def Local (r : Reader α) : Prop :=
  ∀ cs a rest, '#' ∉ cs → r.run cs = .ok (a, rest) →
    ∀ more, r.run (cs ++ ')' :: more) = .ok (a, rest ++ ')' :: more)

/-! ## Combinators -/

theorem local_pure (a : α) : (pure a : Reader α).Local := by
  intro cs b rest _ hrun more
  cases hrun
  rfl

theorem local_throw (e : SyntaxError) : (throw e : Reader α).Local := by
  intro cs b rest _ hrun
  cases hrun

theorem local_throw_bind (e : SyntaxError) (f : β → Reader α) : (throw e >>= f).Local := by
  intro cs b rest _ hrun
  cases hrun

theorem local_bind {r : Reader α} {f : α → Reader β} (hr : r.Local) (hf : ∀ a, (f a).Local) :
    (r >>= f).Local := by
  intro cs b rest hsign hrun more
  rw [run_bind] at hrun
  cases hfirst : r.run cs with
  | error e =>
    rw [hfirst] at hrun
    cases hrun
  | ok a =>
    rw [hfirst] at hrun
    have hsign' : '#' ∉ a.2 := fun hmem => hsign ((suffix_of_run hfirst).mem hmem)
    rw [run_bind_of_ok (hr cs a.1 a.2 hsign hfirst more)]
    exact hf a.1 a.2 b rest hsign' hrun more

/-- A reader without faults is local if what it finds and what it leaves are. -/
theorem local_of_forall {read : (cs : List Char) → Reading α cs}
    (h : ∀ cs, '#' ∉ cs → ∀ more, (read (cs ++ ')' :: more)).value = (read cs).value ∧
      (read (cs ++ ')' :: more)).rest = (read cs).rest ++ ')' :: more) :
    (show Reader α from fun cs => .ok (read cs)).Local := by
  intro cs a rest hsign hrun more
  cases hrun
  obtain ⟨hvalue, hrest⟩ := h cs hsign more
  rw [← hvalue, ← hrest]
  rfl

theorem local_map {r : Reader α} (f : α → β) (hr : r.Local) : (f <$> r).Local := by
  show (r >>= fun a => pure (f a)).Local
  exact local_bind hr fun a => local_pure _

theorem local_ofOption (e : SyntaxError) (o : Option α) : (ofOption e o).Local := by
  cases o with
  | none => exact local_throw e
  | some a => exact local_pure a

theorem local_next (e : SyntaxError) : (next e).Local := by
  intro cs b rest _ hrun more
  cases cs with
  | nil => cases hrun
  | cons c cs =>
    cases hrun
    rfl

theorem local_accept {c : Char} (hc : ')' ≠ c) : (accept c).Local := by
  intro cs b rest _ hrun more
  cases cs with
  | nil =>
    cases hrun
    exact run_accept_other hc more
  | cons d cs =>
    rw [List.cons_append]
    by_cases hd : d = c
    · have haccept (rest : List Char) : (accept c).run (d :: rest) = .ok (true, rest) := by
        simp [run, accept, hd, Except.map]
      rw [haccept] at hrun ⊢
      cases hrun
      rfl
    · rw [run_accept_other hd] at hrun ⊢
      cases hrun
      rfl

/-- A text without `)` comes next or not whatever stands behind a `)`. -/
theorem isPrefixOf_append_close {w : List Char} (hw : ')' ∉ w) (cs more : List Char) :
    w.isPrefixOf (cs ++ ')' :: more) = w.isPrefixOf cs := by
  induction w generalizing cs with
  | nil => rfl
  | cons c w ih =>
    rw [List.mem_cons, not_or] at hw
    cases cs with
    | nil => simp [List.isPrefixOf, Ne.symm hw.1]
    | cons d cs => rw [List.cons_append, List.isPrefixOf, List.isPrefixOf, ih hw.2]

theorem local_acceptText {w : List Char} (hw : ')' ∉ w) : (acceptText w).Local := by
  intro cs b rest _ hrun more
  rw [run_acceptText] at hrun ⊢
  rw [isPrefixOf_append_close hw]
  split at hrun
  · next hprefix =>
    cases hrun
    have hle := (List.isPrefixOf_iff_prefix.mp hprefix).length_le
    rw [if_pos hprefix, List.drop_append_of_le_length hle]
  · next hprefix =>
    cases hrun
    rw [if_neg hprefix]

theorem dropWhile_append_close {p : Char → Bool} (hp : p ')' = false) (cs more : List Char) :
    (cs ++ ')' :: more).dropWhile p = cs.dropWhile p ++ ')' :: more := by
  induction cs with
  | nil => simp [hp]
  | cons c cs ih =>
    rw [List.cons_append, List.dropWhile_cons, List.dropWhile_cons, ih]
    split <;> rfl

theorem takeWhile_append_close {p : Char → Bool} (hp : p ')' = false) (cs more : List Char) :
    (cs ++ ')' :: more).takeWhile p = cs.takeWhile p := by
  induction cs with
  | nil => simp [hp]
  | cons c cs ih => rw [List.cons_append, List.takeWhile_cons, List.takeWhile_cons, ih]

theorem local_takeWhile {p : Char → Bool} (hp : p ')' = false) : (takeWhile p).Local :=
  local_of_forall fun cs _ more => ⟨takeWhile_append_close hp cs more,
    dropWhile_append_close hp cs more⟩

theorem local_oneOf {options : List (List Char × α)} (h : ∀ option ∈ options, ')' ∉ option.1) :
    (oneOf options).Local := by
  induction options with
  | nil => exact local_pure none
  | cons option options ih =>
    obtain ⟨hw, hoptions⟩ := List.forall_mem_cons.mp h
    obtain ⟨w, a⟩ := option
    rw [oneOf]
    refine local_bind (local_acceptText hw) fun found => ?_
    split
    · exact local_pure _
    · exact ih hoptions

/-- A loop that must not meet the end of the text is local if its rounds are. No round begins with
`#`. -/
theorem local_loop {step : σ → Char → Reader (σ ⊕ α)} {atEnd : σ → Except SyntaxError α}
    (hstep : ∀ state c, c ≠ '#' → (step state c).Local)
    (hend : ∀ state, ∃ e, atEnd state = .error e) (state : σ) : (loop step atEnd state).Local := by
  intro cs a rest hsign hrun more
  induction hlen : cs.length using Nat.strongRecOn generalizing state cs with
  | ind n ih =>
  cases cs with
  | nil =>
    obtain ⟨e, he⟩ := hend state
    rw [run_loop_nil, he] at hrun
    cases hrun
  | cons c cs =>
    rw [List.mem_cons, not_or] at hsign
    have hlocal := hstep state c (Ne.symm hsign.1)
    rw [run_loop_cons] at hrun
    cases hround : (step state c).run cs with
    | error e =>
      rw [hround] at hrun
      cases hrun
    | ok r =>
      obtain ⟨outcome, left⟩ := r
      rw [hround] at hrun
      have hround' := hlocal cs outcome left hsign.2 hround more
      cases outcome with
      | inr b =>
        cases hrun
        exact run_loop_inr hround'
      | inl state' =>
        -- the rest of the loop is local, as less is left for it
        have hsuffix := suffix_of_run hround
        have hlt : left.length < n := by
          rw [← hlen]
          exact Nat.lt_succ_of_le hsuffix.length_le
        rw [List.cons_append, run_loop_inl hround']
        exact ih _ hlt state' left (fun hmem => hsign.2 (hsuffix.mem hmem)) hrun rfl

theorem dropBlank_append_close {cs : List Char} (hsign : '#' ∉ cs) (more : List Char) :
    dropBlank false (cs ++ ')' :: more) = dropBlank false cs ++ ')' :: more := by
  induction cs with
  | nil => rfl
  | cons c cs ih =>
    rw [List.mem_cons, not_or] at hsign
    simp only [List.cons_append, dropBlank, Bool.false_eq_true, if_false, Ne.symm hsign.1]
    split
    · exact ih hsign.2
    · rfl

theorem skipBlank_append_close {cs : List Char} (hsign : '#' ∉ cs) (verbose : Bool)
    (more : List Char) :
    skipBlank verbose (cs ++ ')' :: more) = skipBlank verbose cs ++ ')' :: more := by
  cases verbose
  · rfl
  · exact dropBlank_append_close hsign more

theorem local_blank (verbose : Bool) : (blank verbose).Local :=
  local_of_forall fun _ hsign more => ⟨rfl, skipBlank_append_close hsign verbose more⟩

end Reader

open Reader

/-! ## Escapes -/

namespace Escape

theorem local_hexDigit : hexDigit.Local :=
  local_bind (local_next _) fun _ => local_ofOption _ _

theorem local_fixedNumber (verbose : Bool) (n count : Nat) :
    (fixedNumber verbose n count).Local := by
  induction count generalizing n with
  | zero => exact local_pure n
  | succ count ih =>
    exact local_bind (local_blank _) fun _ => local_bind local_hexDigit fun _ => ih _

theorem local_bracedNumber (verbose : Bool) : (bracedNumber verbose).Local := by
  refine local_bind (local_blank _) fun _ => local_bind ?_ fun _ => local_ofOption _ _
  refine local_loop (fun n c _ => ?_) (fun _ => ⟨_, rfl⟩) _
  split
  · exact local_pure _
  · exact local_bind (local_ofOption _ _) fun _ => local_bind (local_blank _) fun _ => local_pure _

theorem local_charOfNumber (n : Nat) : (charOfNumber n).Local := by
  unfold charOfNumber
  split
  · exact local_pure _
  · exact local_throw _

theorem local_numbered (f : Flags) (digits : Nat) : (numbered f digits).Local := by
  refine local_bind (local_blank _) fun _ => local_bind (local_accept (by decide)) fun braced => ?_
  split
  · exact local_bind (local_bracedNumber _) fun _ => local_charOfNumber _
  · refine local_bind (local_fixedNumber _ _ _) fun n => ?_
    dsimp only
    split
    · exact local_throw_bind _ _
    · exact local_charOfNumber _

theorem local_propertyName (verbose : Bool) : (propertyName verbose).Local := by
  refine local_bind (local_blank _) fun _ => local_bind (local_accept (by decide)) fun braced => ?_
  split
  · refine local_bind (local_blank _) fun _ => local_loop (fun name c _ => ?_)
      (fun _ => ⟨_, rfl⟩) _
    split
    · exact local_pure _
    · exact local_bind (local_blank _) fun _ => local_pure _
  · refine local_bind (local_next _) fun c => ?_
    split
    · exact local_throw_bind _ _
    · exact local_pure _

theorem local_foldNegate (f : Flags) (negated : Bool) (s : CharSet) :
    (foldNegate f negated s).Local := by
  unfold foldNegate
  dsimp only
  split
  · split
    · exact local_pure _
    · exact local_throw _
  · exact local_pure _

theorem local_propertySet (f : Flags) (negated : Bool) : (propertySet f negated).Local := by
  refine local_bind (local_propertyName _) fun name => local_bind (local_ofOption _ _) fun p => ?_
  obtain ⟨p, differs⟩ := p
  dsimp only
  split
  · exact local_throw_bind _ _
  · exact local_foldNegate _ _ _

theorem local_edgeName (verbose : Bool) : (edgeName verbose).Local := by
  refine local_bind (local_blank _) fun _ => local_bind ?_ fun _ => local_ofOption _ _
  refine local_loop (fun name c _ => ?_) (fun _ => ⟨_, rfl⟩) _
  split
  · exact local_pure _
  · split
    · exact local_throw_bind _ _
    · exact local_bind (local_blank _) fun _ => local_pure _

theorem opensName_append_close {verbose : Bool} {cs : List Char} {b : Bool} (hsign : '#' ∉ cs)
    (h : opensName verbose cs = .ok b) (more : List Char) :
    opensName verbose (cs ++ ')' :: more) = .ok b := by
  rcases cs with _ | ⟨c, cs⟩
  · exact h
  rw [List.mem_cons, not_or] at hsign
  by_cases hc : c = '\x7b'
  · subst hc
    simp only [List.cons_append, opensName] at h ⊢
    rw [skipBlank_append_close hsign.2]
    cases hskip : skipBlank verbose cs with
    | nil => rw [hskip] at h; cases h
    | cons d rest => rwa [hskip] at h
  · simpa [opensName, hc] using h

theorem run_boundary (f : Flags) (cs : List Char) :
    (boundary f).run cs = (opensName f.verbose cs).bind fun named =>
      if named then (Reader.next .invalidEscape >>= fun _ => edgeName f.verbose).run cs
      else .ok (.boundary, cs) := by
  unfold Reader.run
  dsimp only [boundary]
  split <;> next h => rw [h]; rfl

theorem local_boundary (f : Flags) : (boundary f).Local := by
  intro cs a rest hsign hrun more
  rw [run_boundary] at hrun ⊢
  cases hopens : opensName f.verbose cs with
  | error e => rw [hopens] at hrun; cases hrun
  | ok named =>
    rw [hopens] at hrun
    rw [opensName_append_close hsign hopens]
    cases named with
    | false =>
      cases hrun
      rfl
    | true =>
      exact local_bind (local_next _) (fun _ => local_edgeName _) cs a rest hsign hrun more

theorem local_read (f : Flags) : (read f).Local := by
  refine local_bind (local_next _) fun c => ?_
  split
  -- numbers, properties and word boundaries have text of their own
  case h_1 | h_2 | h_3 => exact local_map _ (local_numbered _ _)
  case h_4 | h_5 => exact local_map _ (local_propertySet _ _)
  case h_20 => exact local_bind (local_boundary _) fun _ => local_pure _
  case h_9 | h_10 | h_11 | h_24 =>
    split
    · exact local_pure _
    · exact local_throw _
  all_goals exact local_pure _

end Escape

/-! ## Bracketed classes -/

namespace Bracket

theorem local_leadingHyphens (verbose : Bool) :
    (show Reader Nat from fun cs => .ok (leadingHyphens verbose cs)).Local := by
  refine local_of_forall fun cs hsign more => ?_
  fun_induction leadingHyphens verbose cs with
  | case1 rest _ _ ih =>
    rw [List.mem_cons, not_or] at hsign
    have hsuffix := skipBlank_suffix verbose rest
    obtain ⟨hvalue, hrest⟩ := ih fun hmem => hsign.2 (hsuffix.mem hmem)
    rw [← skipBlank_append_close hsign.2] at hvalue hrest
    rw [List.cons_append, leadingHyphens]
    exact ⟨congrArg (· + 1) hvalue, hrest⟩
  | case2 cs hhyphen =>
    rw [leadingHyphens]
    · exact ⟨rfl, rfl⟩
    · intro rest hrest
      rcases cs with _ | ⟨c, cs⟩
      · cases hrest
      · cases hrest
        exact hhyphen cs rfl

theorem local_openLevel (f : Flags) : (openLevel f).Local := by
  refine local_bind (local_blank _) fun _ => local_bind (local_accept (by decide)) fun negated => ?_
  have hrest (negated : Bool) : Reader.Local (do
      let hyphens ← (show Reader Nat from fun cs => .ok (leadingHyphens f.verbose cs))
      let level : Level := ⟨negated, none, List.replicate hyphens ⟨.single '-', 0⟩⟩
      if hyphens = 0 then
        if ← Reader.accept ']' then return level.add ⟨.single ']', 0⟩
      return level) := by
    refine local_bind (local_leadingHyphens _) fun hyphens => ?_
    dsimp only
    split
    · refine local_bind (local_accept (by decide)) fun closing => ?_
      split <;> exact local_pure _
    · exact local_pure _
  cases negated with
  | false => exact hrest false
  | true => exact local_bind (local_blank _) fun _ => hrest true

/-- Which character decides about a hyphen is not for a parenthesis to say. -/
theorem afterHyphen_append_close {cs : List Char} (hsign : '#' ∉ cs) {c : Char} (hc : c ≠ ')')
    (hspace : Unicode.isSpace c = false) (verbose : Bool) (more : List Char) :
    afterHyphen verbose (cs ++ ')' :: more) = some c ↔ afterHyphen verbose cs = some c := by
  have hhead (cs : List Char) : (cs ++ ')' :: more).head? = some c ↔ cs.head? = some c := by
    cases cs with
    | nil => simp [Ne.symm hc]
    | cons d cs => rfl
  cases verbose with
  | false => exact hhead cs
  | true =>
    simp only [afterHyphen, if_true]
    rw [dropWhile_append_close (by decide)]
    cases hdrop : cs.dropWhile Unicode.isSpace with
    | cons d rest =>
      have hd : d ≠ '#' := by
        rintro rfl
        exact hsign ((List.dropWhile_suffix _).mem (hdrop ▸ List.mem_cons_self))
      simp [hd]
    | nil =>
      -- what is left is white space only, and `c` is none
      have hall := List.dropWhile_eq_nil_iff.mp hdrop
      have hnone : cs.head? ≠ some c := fun h => by
        have hc := hall c (List.mem_of_mem_head? h)
        rw [hspace] at hc
        cases hc
      simp [hnone, Ne.symm hc]

theorem run_rangeSign (verbose : Bool) (rest : List Char) :
    (rangeSign verbose).run ('-' :: rest) =
      .ok (if afterHyphen verbose rest = some ']' ∨ afterHyphen verbose rest = some '-' then
        (false, '-' :: rest) else (true, rest)) := by
  simp only [Reader.run, rangeSign]
  split
  · next h => rw [h]; rfl
  · next h => rw [h]; rfl
  · next h h' => rw [if_neg (not_or.mpr ⟨h, h'⟩)]; rfl

theorem local_rangeSign (verbose : Bool) : (rangeSign verbose).Local := by
  intro cs a rest hsign hrun more
  have hother {cs : List Char} (h : ∀ tail, cs ≠ '-' :: tail) :
      (rangeSign verbose).run cs = .ok (false, cs) := by
    unfold Reader.run
    rw [rangeSign]
    · rfl
    · exact h
  by_cases hhyphen : ∃ tail, cs = '-' :: tail
  · obtain ⟨tail, rfl⟩ := hhyphen
    rw [List.mem_cons, not_or] at hsign
    rw [run_rangeSign] at hrun
    rw [List.cons_append, run_rangeSign]
    simp only [afterHyphen_append_close hsign.2 (by decide : ']' ≠ ')') (by decide),
      afterHyphen_append_close hsign.2 (by decide : '-' ≠ ')') (by decide)]
    split at hrun
    · next h => cases hrun; rw [if_pos h]; rfl
    · next h => cases hrun; rw [if_neg h]
  · have hcs : ∀ tail, cs ≠ '-' :: tail := fun tail h => hhyphen ⟨tail, h⟩
    rw [hother hcs] at hrun
    cases hrun
    refine hother fun tail h => ?_
    rcases cs with _ | ⟨c, cs⟩
    · cases h
    · cases h
      exact hcs cs rfl

theorem local_item (f : Flags) (c : Char) : (item f c).Local := by
  unfold item
  split
  · exact Escape.local_read f
  · exact local_pure _

theorem local_literal (f : Flags) (e : Escape) : (literal f e).Local := by
  cases e with
  | literal c =>
    dsimp only [literal]
    split
    · exact local_pure _
    · exact local_throw _
  | chars s => exact local_throw _
  | look l => exact local_throw _

theorem local_itemSet (f : Flags) (e : Escape) : (itemSet f e).Local := by
  cases e with
  | chars s => exact local_pure s
  | literal c => exact local_bind (local_literal f _) fun _ => local_pure _
  | look l => exact local_bind (local_literal f _) fun _ => local_pure _

theorem local_itemOrRange (f : Flags) (c : Char) : (itemOrRange f c).Local := by
  refine local_bind (local_item _ _) fun first => local_bind (local_blank _) fun _ =>
    local_bind (local_rangeSign _) fun isRange => ?_
  split
  · refine local_bind (local_blank _) fun _ => local_bind (local_next _) fun c =>
      local_bind (local_item _ _) fun last => local_bind (local_literal _ _) fun low =>
      local_bind (local_literal _ _) fun high => ?_
    split
    · exact local_pure _
    · exact local_throw _
  · exact local_bind (local_itemSet _ _) fun _ => local_pure _

theorem local_close (f : Flags) (l : Level) : (l.close f).Local :=
  local_bind (Escape.local_foldNegate _ _ _) fun _ => local_pure _

theorem local_step (f : Flags) (s : State) {c : Char} (hc : c ≠ '#') : (step f s c).Local := by
  have hitem : Reader.Local (do
      return .inl { s with level := s.level.add (← itemOrRange f c) } : Reader (State ⊕ Part)) :=
    local_bind (local_itemOrRange _ _) fun _ => local_pure _
  unfold step
  split
  · exact local_pure _
  split
  · next hcomment => exact absurd (of_decide_eq_true (Bool.and_eq_true_iff.mp hcomment).2) hc
  split
  · refine local_bind (local_oneOf (by decide)) fun ascii => ?_
    split
    · exact local_bind (Escape.local_foldNegate _ _ _) fun _ => local_pure _
    · exact local_bind (local_openLevel _) fun _ => local_pure _
  split
  · refine local_bind (local_close _ _) fun part => ?_
    split <;> exact local_pure _
  split
  · next sign op hfind =>
    have htail : ∀ o ∈ operators, ')' ∉ o.1.tail := by decide
    refine local_bind (local_acceptText (htail _ (List.mem_of_find?_eq_some hfind))) fun found => ?_
    split
    · exact local_pure _
    · exact hitem
  · exact hitem

theorem local_read (f : Flags) : (read f).Local :=
  local_bind (local_openLevel f) fun _ =>
    local_loop (fun s _ hc => local_step f s hc) (fun _ => ⟨_, rfl⟩) _

end Bracket

/-! ## Tokens -/

namespace Token

theorem local_groupName : groupName.Local := by
  refine local_bind (local_loop (fun name c _ => ?_) (fun _ => ⟨_, rfl⟩) _) fun name => ?_
  · split
    · exact local_pure _
    · split
      · exact local_pure _
      · exact local_throw _
  · dsimp only
    split
    · exact local_throw_bind _ _
    · exact local_pure _

theorem local_flagChanges : flagChanges.Local := by
  refine local_loop (fun s c _ => ?_) (fun _ => ⟨_, rfl⟩) _
  dsimp only
  split
  · split
    · exact local_throw_bind _ _
    · exact local_pure _
  split
  · split
    · exact local_throw_bind _ _
    · exact local_pure _
  refine local_bind (local_ofOption _ _) fun flag => ?_
  split
  · exact local_throw_bind _ _
  · exact local_pure _

theorem local_openedGroup (f : Flags) : (openedGroup f).Local := by
  refine local_bind (local_blank _) fun _ => local_bind (local_oneOf (by decide)) fun looks => ?_
  dsimp only
  split
  · exact local_throw_bind _ _
  refine local_bind (local_oneOf (by decide)) fun named => ?_
  split
  · exact local_bind local_groupName fun _ => local_pure _
  refine local_bind (local_accept (by decide)) fun special => ?_
  split
  · refine local_bind local_flagChanges fun changes => ?_
    split
    · exact local_throw_bind _ _
    · exact local_pure _
    · exact local_pure _
  · exact local_pure _

theorem local_turnable (min : Nat) (max : Option Nat) : (turnable min max).Local :=
  local_bind (local_accept (by decide)) fun _ => local_pure _

theorem local_countDigits (verbose : Bool) :
    (show Reader (List Char) from fun cs => .ok (countDigits verbose cs)).Local := by
  refine local_of_forall fun cs hsign more => ?_
  fun_induction countDigits verbose cs with
  | case1 c rest hc _ _ ih =>
    rw [List.mem_cons, not_or] at hsign
    have hsuffix := skipBlank_suffix verbose rest
    obtain ⟨hvalue, hrest⟩ := ih fun hmem => hsign.2 (hsuffix.mem hmem)
    rw [← skipBlank_append_close hsign.2] at hvalue hrest
    rw [List.cons_append, countDigits, if_pos hc]
    exact ⟨congrArg (c :: ·) hvalue, hrest⟩
  | case2 c rest hc =>
    rw [List.cons_append, countDigits, if_neg hc]
    exact ⟨rfl, rfl⟩
  | case3 =>
    rw [List.nil_append, countDigits, if_neg (by decide)]
    exact ⟨rfl, rfl⟩

theorem local_count (verbose : Bool) : (count verbose).Local := by
  refine local_bind (local_takeWhile (by decide)) fun _ => local_bind (local_countDigits _)
    fun digits => local_bind (local_takeWhile (by decide)) fun _ => ?_
  dsimp only
  split
  · exact local_throw_bind _ _
  · split
    · exact local_pure _
    · exact local_throw _

theorem local_countEnd : countEnd.Local := by
  refine local_bind (local_accept (by decide)) fun closed => ?_
  split
  · exact local_pure _
  · exact local_throw _

theorem local_countMax (verbose : Bool) (min : Nat) : (countMax verbose min).Local := by
  refine local_bind (local_accept (by decide)) fun comma => ?_
  split
  · refine local_bind (local_blank _) fun _ => local_bind (local_accept (by decide))
      fun closed => ?_
    split
    · exact local_pure _
    · exact local_bind (local_count _) fun _ => local_bind local_countEnd fun _ => local_pure _
  · exact local_bind local_countEnd fun _ => local_pure _

theorem local_countedQuantifier (f : Flags) : (countedQuantifier f).Local := by
  refine local_bind (local_blank _) fun _ => local_bind (local_count _) fun min =>
    local_bind (local_countMax _ _) fun max => local_bind (local_blank _) fun _ => ?_
  dsimp only
  split
  · exact local_throw_bind _ _
  · exact local_turnable _ _

/-- **A token of a text without `#` is the same where a closing parenthesis and more text stand
behind that text.** -/
theorem local_read (f : Flags) {c : Char} (hc : c ≠ '#') : (read f c).Local := by
  unfold read
  rw [if_neg hc]
  split
  · exact local_pure _
  split
  case h_1 => exact local_openedGroup f
  case h_4 | h_5 | h_6 => exact local_turnable _ _
  case h_7 => exact local_countedQuantifier f
  case h_8 => exact local_bind (Bracket.local_read f) fun _ => local_pure _
  case h_9 =>
    split
    · exact local_pure _
    · exact local_throw _
  case h_12 => exact local_bind (Escape.local_read f) fun _ => local_pure _
  all_goals exact local_pure _

end Token

end PathRouter.Regex
