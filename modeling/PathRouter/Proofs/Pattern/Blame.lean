import PathRouter.Proofs.Pattern.Collision

/-!
# Which conditions count

A pattern uses the conditions for the names of its captures and no others, once to put its
expression together and, if that cannot be used, once more to find the capture to blame. So
conditions that agree on these names give the same outcome (`compile_congr`). Whether there is an
expression is a matter of the whole text only; a condition that does not stand alone counts where
there is none, and then the first one is named (`faultyParameter?_eq_some_iff`).
-/

namespace PathRouter.Pattern

/-- The conditions say the same of every capture of the pattern. -/
def AgreeOn (source : String) (conditions conditions' : Conditions) : Prop :=
  ∀ name ∈ captureNames source, conditions.get? name = conditions'.get? name

/-- If there is a condition for `name`, it can be used by itself. -/
def StandsAlone (conditions : Conditions) (name : String) : Prop :=
  ∀ condition, conditions.get? name = some condition →
    ∃ regex, Regex.compile condition = .ok regex

/-! ## Names that are not captured -/

section Agreeing

variable {source : String} {conditions conditions' : Conditions}

theorem assemble_congr (h : AgreeOn source conditions conditions') :
    assemble source conditions = assemble source conditions' := by
  have hinners : (Piece.names (Piece.scan source.toList)).map (inner conditions) =
      (Piece.names (Piece.scan source.toList)).map (inner conditions') := by
    refine List.map_congr_left fun name hname => ?_
    unfold inner
    rw [h _ (List.mem_map_of_mem hname)]
  rw [← String.toList_inj, toList_assemble, toList_assemble, body_eq_weave, body_eq_weave, hinners]

theorem faultyParameter?_congr {names : List String}
    (h : ∀ name ∈ names, conditions.get? name = conditions'.get? name) :
    faultyParameter? names conditions = faultyParameter? names conditions' := by
  induction names with
  | nil => rfl
  | cons name names ih =>
    obtain ⟨hname, h⟩ := List.forall_mem_cons.mp h
    have hfaulty : isFaulty conditions name = isFaulty conditions' name := by
      unfold isFaulty
      rw [hname]
    have ih := ih h
    unfold faultyParameter? at ih ⊢
    rw [List.find?_cons, List.find?_cons, hfaulty, ih]

theorem compile_congr (h : AgreeOn source conditions conditions') :
    compile source conditions = compile source conditions' := by
  unfold compile
  rw [assemble_congr h, faultyParameter?_congr h]

end Agreeing

/-! ## The capture to blame -/

theorem isFaulty_eq_false_iff {conditions : Conditions} {name : String} :
    isFaulty conditions name = false ↔ StandsAlone conditions name := by
  unfold isFaulty StandsAlone
  cases conditions.get? name with
  | none => simp
  | some condition =>
    simp only [Option.any_some, Bool.not_eq_false', Option.some.injEq, forall_eq']
    cases Regex.compile condition with
    | ok regex => simp [Except.isOk, Except.toBool]
    | error cause => simp [Except.isOk, Except.toBool]

theorem isFaulty_iff {conditions : Conditions} {name : String} :
    isFaulty conditions name ↔ ¬ StandsAlone conditions name := by
  rw [← isFaulty_eq_false_iff, Bool.not_eq_false]

theorem faultyParameter?_eq_none_iff {names : List String} {conditions : Conditions} :
    faultyParameter? names conditions = none ↔ ∀ name ∈ names, StandsAlone conditions name := by
  simp only [faultyParameter?, List.find?_eq_none, isFaulty_iff, not_not]

theorem faultyParameter?_eq_some_iff {names : List String} {conditions : Conditions}
    {name : String} :
    faultyParameter? names conditions = some name ↔
      ∃ before later, names = before ++ name :: later ∧ ¬ StandsAlone conditions name ∧
        ∀ other ∈ before, StandsAlone conditions other := by
  rw [faultyParameter?, List.find?_eq_some_iff_append, isFaulty_iff]
  simp only [Bool.not_eq_true', isFaulty_eq_false_iff]
  constructor
  · rintro ⟨hname, before, later, hnames, hbefore⟩
    exact ⟨before, later, hnames, hname, hbefore⟩
  · rintro ⟨before, later, hnames, hname, hbefore⟩
    exact ⟨hname, before, later, hnames, hbefore⟩

theorem compile_eq_error_iff {source : String} {conditions : Conditions} {e : ExpressionError} :
    compile source conditions = .error e ↔
      ∃ cause, Regex.compile (assemble source conditions) = .error cause ∧
        e = ⟨source, faultyParameter? (captureNames source) conditions, cause⟩ := by
  unfold compile
  cases Regex.compile (assemble source conditions) with
  | ok regex => simp
  | error cause => simp [eq_comm]

theorem compile_isOk_iff {source : String} {conditions : Conditions} :
    (∃ p, compile source conditions = .ok p) ↔
      ∃ regex, Regex.compile (assemble source conditions) = .ok regex := by
  unfold compile
  cases Regex.compile (assemble source conditions) with
  | ok regex => simp
  | error cause => simp

/-- **Only conditions for captures count, and the first that is at fault is blamed.** Conditions
that agree on the captures of a pattern give the same outcome: one pattern, with its expression, its
names and all that it matches and captures, or one error. There is a pattern exactly if the whole
expression can be used, whether or not the conditions stand alone. If there is none, the error has
the text of the pattern and the fault of the expression. It names the first capture whose condition
does not stand alone, and none if all of them do. -/
theorem compile_of_agreeOn (source : String) (conditions : Conditions) :
    (∀ conditions', AgreeOn source conditions' conditions →
      compile source conditions' = compile source conditions) ∧
    ((∃ p, compile source conditions = .ok p) ↔
      ∃ regex, Regex.compile (assemble source conditions) = .ok regex) ∧
    ∀ e, compile source conditions = .error e →
      e.source = source ∧ Regex.compile (assemble source conditions) = .error e.cause ∧
      (∀ name, e.parameter = some name ↔
        ∃ before later, captureNames source = before ++ name :: later ∧
          ¬ StandsAlone conditions name ∧ ∀ other ∈ before, StandsAlone conditions other) ∧
      (e.parameter = none ↔ ∀ name ∈ captureNames source, StandsAlone conditions name) := by
  refine ⟨fun _ hagree => compile_congr hagree, compile_isOk_iff, fun e herror => ?_⟩
  obtain ⟨cause, hcause, rfl⟩ := compile_eq_error_iff.mp herror
  exact ⟨rfl, hcause, fun _ => faultyParameter?_eq_some_iff, faultyParameter?_eq_none_iff⟩

/-- A condition that the group around it balances. -/
example :
    let conditions := Params.empty.insert "pair" "[a-z]+)-([0-9]+"
    isFaulty conditions "pair" ∧ (compile "/k/:pair" conditions).isOk := by
  decide +kernel

end PathRouter.Pattern
