import PathRouter.Proofs.Pattern.CaptureGroups
import PathRouter.Proofs.Pattern.Expression

/-!
# Patterns with one expression

Two patterns have the same expression if they agree up to the names of their captures: in their
literal runs, and in what stands in each capture (`Outline`). Where no parenthesis opens in literal
text and none closes in a condition (`Apart`), that is the only way: the first opening parenthesis
of an expression is that of its first capture, and the first closing one behind it ends that
capture.

* `body_eq_weave`: the text of some pieces is a function of their outline.
* `weave_inj`: it gives the outline back.
* `expression_eq_iff` says so of patterns, and `regex_eq` that patterns with one expression differ
  in nothing but their names.
-/

namespace PathRouter

namespace Pattern

/-! ## Outlines -/

/-- The literal text before each capture and behind the last one; it may be empty. -/
def Piece.runs : List Piece → List (List Char)
  | [] => [[]]
  | .literal text :: rest => (runs rest).modifyHead (text ++ ·)
  | .capture _ :: rest => [] :: runs rest

/-- A pattern up to the names of its captures. -/
@[ext] structure Outline where
  /-- The literal text before each capture and behind the last one. -/
  runs : List (List Char)
  /-- The expressions of the captures. -/
  inners : List String
deriving DecidableEq, Repr

/-- The outline of a pattern. -/
def outline (source : String) (conditions : Conditions) : Outline where
  runs := Piece.runs (Piece.scan source.toList)
  inners := (Piece.names (Piece.scan source.toList)).map (inner conditions)

/-- The groups of captures, the first being number `i`, between literal runs. -/
def weave (i : Nat) : List (List Char) → List String → List Char
  | [], _ => []
  | run :: _, [] => run
  | run :: runs, inner :: inners => run ++ groupText i inner ++ weave (i + 1) runs inners

theorem Piece.runs_ne_nil (pieces : List Piece) : runs pieces ≠ [] := by
  induction pieces with
  | nil => exact List.cons_ne_nil _ _
  | cons piece pieces ih =>
    cases piece with
    | literal text =>
      rw [runs, Ne, List.modifyHead_eq_nil_iff]
      exact ih
    | capture name => exact List.cons_ne_nil _ _

theorem weave_modifyHead (i : Nat) (text : List Char) {runs : List (List Char)} (hruns : runs ≠ [])
    (inners : List String) :
    weave i (runs.modifyHead (text ++ ·)) inners = text ++ weave i runs inners := by
  cases runs with
  | nil => exact absurd rfl hruns
  | cons run runs => cases inners <;> simp [weave]

/-- The text of some pieces depends on their outline only. -/
theorem body_eq_weave (conditions : Conditions) (i : Nat) (pieces : List Piece) :
    body conditions i pieces =
      weave i (Piece.runs pieces) ((Piece.names pieces).map (inner conditions)) := by
  induction pieces generalizing i with
  | nil => rfl
  | cons piece pieces ih =>
    cases piece with
    | literal text =>
      rw [body, Piece.runs, Piece.names, weave_modifyHead i text (Piece.runs_ne_nil pieces), ih]
    | capture name =>
      rw [body, Piece.runs, Piece.names, List.map_cons, weave, List.nil_append, ih]

/-! ## Taking a text apart -/

/-- Where a character stands first, a text is cut in one way. -/
theorem append_cons_inj {c : Char} {before before' rest rest' : List Char} (h : c ∉ before)
    (h' : c ∉ before') (heq : before ++ c :: rest = before' ++ c :: rest') :
    before = before' ∧ rest = rest' := by
  induction before generalizing before' with
  | nil =>
    cases before' with
    | nil => exact ⟨rfl, (List.cons.inj heq).2⟩
    | cons d before' => exact absurd ((List.cons.inj heq).1 ▸ List.mem_cons_self) h'
  | cons d before ih =>
    rw [List.mem_cons, not_or] at h
    cases before' with
    | nil => exact absurd (List.cons.inj heq).1.symm h.1
    | cons d' before' =>
      obtain ⟨rfl, hrest⟩ := List.cons.inj heq
      rw [List.mem_cons, not_or] at h'
      exact (ih h.2 h'.2 hrest).imp_left (congrArg (d :: ·))

/-- The text with its first opening parenthesis and the closing one behind it brought out. -/
theorem weave_cons_append (i : Nat) (run : List Char) (runs : List (List Char)) (inner : String)
    (inners : List String) (tail : List Char) :
    weave i (run :: runs) (inner :: inners) ++ tail =
      run ++ '(' :: ("?P<".toList ++ (groupName i).toList ++ ['>'] ++
        (inner.toList ++ ')' :: (weave (i + 1) runs inners ++ tail))) := by
  rw [weave, groupText_eq]
  simp

/-- One run more than inner expressions. No parenthesis opens in a run, and none closes in an inner
expression. -/
inductive Apart : List (List Char) → List String → Prop where
  | last {run : List Char} (hrun : '(' ∉ run) : Apart [run] []
  | cons {run : List Char} {runs : List (List Char)} {inner : String} {inners : List String}
      (hrun : '(' ∉ run) (hinner : ')' ∉ inner.toList) (rest : Apart runs inners) :
      Apart (run :: runs) (inner :: inners)

theorem Apart.modifyHead {runs : List (List Char)} {inners : List String} (h : Apart runs inners)
    {text : List Char} (htext : '(' ∉ text) : Apart (runs.modifyHead (text ++ ·)) inners := by
  have happend {run : List Char} (hrun : '(' ∉ run) : '(' ∉ text ++ run :=
    fun hmem => (List.mem_append.mp hmem).elim htext hrun
  cases h with
  | last hrun => exact .last (happend hrun)
  | cons hrun hinner rest => exact .cons (happend hrun) hinner rest

/-- **A text gives back its outline.** -/
theorem weave_inj {runs runs' : List (List Char)} {inners inners' : List String}
    (h : Apart runs inners) (h' : Apart runs' inners') {tail : List Char} (htail : '(' ∉ tail)
    {i : Nat} (heq : weave i runs inners ++ tail = weave i runs' inners' ++ tail) :
    runs = runs' ∧ inners = inners' := by
  -- what has a capture is no literal run
  have hnone {run run' rest : List Char} (hrun : '(' ∉ run)
      (heq : run ++ tail = run' ++ '(' :: rest) : False := by
    have hmem : '(' ∈ run ++ tail := heq ▸ List.mem_append_right _ List.mem_cons_self
    exact (List.mem_append.mp hmem).elim hrun htail
  induction h generalizing runs' inners' i with
  | last hrun =>
    cases h' with
    | last hrun' => exact ⟨congrArg (fun run => [run]) (List.append_cancel_right heq), rfl⟩
    | cons hrun' hinner' rest' =>
      rw [weave_cons_append] at heq
      exact (hnone hrun heq).elim
  | cons hrun hinner rest ih =>
    cases h' with
    | last hrun' =>
      rw [weave_cons_append] at heq
      exact (hnone hrun' heq.symm).elim
    | cons hrun' hinner' rest' =>
      rw [weave_cons_append, weave_cons_append] at heq
      obtain ⟨rfl, hgroup⟩ := append_cons_inj hrun hrun' heq
      obtain ⟨hsame, hrest⟩ := append_cons_inj hinner hinner' (List.append_cancel_left hgroup)
      obtain ⟨rfl, rfl⟩ := ih rest' hrest
      rw [String.toList_inj.mp hsame]
      exact ⟨rfl, rfl⟩

/-! ## Patterns -/

/-- No parenthesis opens in the literal text, and none closes in a condition of a capture. -/
structure Separable (source : String) (conditions : Conditions) : Prop where
  literals : ∀ text, .literal text ∈ Piece.scan source.toList → '(' ∉ text
  conditions : ∀ name ∈ captureNames source, ∀ condition,
    conditions.get? name = some condition → ')' ∉ condition.toList

theorem apart_of_pieces {conditions : Conditions} {pieces : List Piece}
    (hliterals : ∀ text, .literal text ∈ pieces → '(' ∉ text)
    (hinners : ∀ name ∈ Piece.names pieces, ')' ∉ (inner conditions name).toList) :
    Apart (Piece.runs pieces) ((Piece.names pieces).map (inner conditions)) := by
  induction pieces with
  | nil => exact .last List.not_mem_nil
  | cons piece pieces ih =>
    have hlater : ∀ text, .literal text ∈ pieces → '(' ∉ text :=
      fun text htext => hliterals text (List.mem_cons_of_mem _ htext)
    cases piece with
    | literal text => exact (ih hlater hinners).modifyHead (hliterals text List.mem_cons_self)
    | capture name =>
      obtain ⟨hinner, hinners⟩ := List.forall_mem_cons.mp hinners
      exact .cons List.not_mem_nil hinner (ih hlater hinners)

theorem Separable.apart {source : String} {conditions : Conditions}
    (h : Separable source conditions) :
    Apart (outline source conditions).runs (outline source conditions).inners := by
  refine apart_of_pieces h.literals fun name hname => ?_
  have hcondition := h.conditions (String.ofList name) (List.mem_map_of_mem hname)
  unfold inner
  cases hget : conditions.get? (String.ofList name) with
  | none => decide
  | some condition => exact hcondition condition hget

theorem assemble_eq_weave (source : String) (conditions : Conditions) :
    (assemble source conditions).toList =
      '^' :: (weave 0 (outline source conditions).runs (outline source conditions).inners ++
        "/?$".toList) := by
  rw [toList_assemble, body_eq_weave]
  rfl

/-- **Expressions are the same if the outlines are.** -/
theorem assemble_inj_iff {source source' : String} {conditions conditions' : Conditions}
    (h : Separable source conditions) (h' : Separable source' conditions') :
    assemble source conditions = assemble source' conditions' ↔
      outline source conditions = outline source' conditions' := by
  rw [← String.toList_inj, assemble_eq_weave, assemble_eq_weave, List.cons_inj_right]
  constructor
  · intro heq
    obtain ⟨hruns, hinners⟩ := weave_inj h.apart h'.apart (by decide) heq
    exact Outline.ext hruns hinners
  · intro heq
    rw [heq]

section Compiled

variable {source source' : String} {conditions conditions' : Conditions} {p p' : Pattern}

theorem expression_eq_iff (hcompile : compile source conditions = .ok p)
    (hcompile' : compile source' conditions' = .ok p') (h : Separable source conditions)
    (h' : Separable source' conditions') :
    p.expression = p'.expression ↔ outline source conditions = outline source' conditions' := by
  rw [(parse_of_compile hcompile).1, (parse_of_compile hcompile').1]
  exact assemble_inj_iff h h'

theorem regex_eq (hcompile : compile source conditions = .ok p)
    (hcompile' : compile source' conditions' = .ok p') (h : p.expression = p'.expression) :
    p.regex = p'.regex := by
  obtain ⟨-, -, hparse⟩ := parse_of_compile hcompile
  obtain ⟨-, -, hparse'⟩ := parse_of_compile hcompile'
  rw [h, hparse'] at hparse
  obtain ⟨source, names, regexSource, expr⟩ := p
  obtain ⟨source', names', regexSource', expr'⟩ := p'
  cases hparse
  cases h
  rfl

theorem length_names_of_compile (hcompile : compile source conditions = .ok p) :
    p.names.length = (outline source conditions).inners.length := by
  rw [(parse_of_compile hcompile).2.1, captureNames, List.length_map, outline, List.length_map]

/-- The values of captures are those of groups, whatever the names. -/
theorem map_snd_captures_eq (hregex : p.regex = p'.regex)
    (hlength : p.names.length = p'.names.length) (path : String) :
    (p.captures path).map (·.map (·.2)) = (p'.captures path).map (·.map (·.2)) := by
  have hvalues (m : Regex.Match) :
      (p.names.mapIdx fun i name => (name, String.ofList (p.captured path.toList m i))).map (·.2) =
        (p'.names.mapIdx fun i name =>
          (name, String.ofList (p'.captured path.toList m i))).map (·.2) := by
    refine List.ext_getElem (by simp [hlength]) fun i hi hi' => ?_
    simp only [List.getElem_map, List.getElem_mapIdx, captured, hregex]
  unfold captures
  rw [hregex, Option.map_map, Option.map_map]
  exact Option.map_congr fun m _ => hvalues m

end Compiled

end Pattern

end PathRouter
