import PathRouter.Proofs.Pattern.Collision
import PathRouter.Proofs.Router.Registry

/-!
# Conflicts

A router refuses a route for a conflict if one of its routes has the same expression. Where no
parenthesis opens in literal text and none closes in a condition, this is so exactly if the two
patterns are one up to the names of their captures; handlers, parameters that every match has and
conditions that no capture uses do not count. And then it makes no difference which of the two a
router holds: they match the same paths, with the same values.
-/

namespace PathRouter

open Pattern

/-- A declaration that compiles is refused for a conflict if its expression is that of a route. -/
theorem Router.value_register_eq_conflict {r r' : Router} {m : Mapping} {p : Pattern}
    (hr : (r.routes.map Route.expression).Nodup)
    (hcompile : Pattern.compile m.pattern m.conditions = .ok p) {pattern existing : String} :
    (r.register m).value = .error ⟨.conflict pattern existing, r'⟩ ↔
      r' = r ∧ pattern = m.pattern ∧
        ∃ old ∈ r.routes, old.expression = p.expression ∧ old.source = existing := by
  rw [value_register_eq_error_iff, and_comm, admission_eq_conflict hr, hcompile]
  refine and_congr_right fun _ => ?_
  constructor
  · rintro ⟨_, hp, rfl, old, hold, hexpression, rfl, -⟩
    cases hp
    exact ⟨rfl, old, hold, hexpression, rfl⟩
  · rintro ⟨rfl, old, hold, hexpression, rfl⟩
    refine ⟨p, rfl, rfl, old, hold, hexpression, rfl, fun other hother h => ?_⟩
    exact List.inj_on_of_nodup_map hr hother hold (h.trans hexpression.symm)

/-- **Conflicts are between patterns that differ in the names of their captures at most.** Two
patterns have one expression exactly if they have one outline; then they match the same paths with
the same values. A router that holds the first refuses any declaration of the second for a conflict
with it if the outlines are the same, and otherwise only for a conflict with another route. -/
theorem conflict_iff_outline_eq {source source' : String} {conditions conditions' : Conditions}
    {p p' : Pattern} (hcompile : Pattern.compile source conditions = .ok p)
    (hcompile' : Pattern.compile source' conditions' = .ok p')
    (h : Separable source conditions) (h' : Separable source' conditions') :
    (p.expression = p'.expression ↔ outline source conditions = outline source' conditions') ∧
      (outline source conditions = outline source' conditions' → ∀ path,
        p.isMatch path = p'.isMatch path ∧
          (p.captures path).map (·.map (·.2)) = (p'.captures path).map (·.map (·.2))) ∧
      ∀ config ops,
        let r := (Router.ofConfig config).after ops
        ∀ route ∈ r.routes, route.pattern = p →
          ∀ m : Mapping, m.pattern = source' → m.conditions = conditions' →
            (outline source conditions = outline source' conditions' →
              (r.register m).value = .error ⟨.conflict source' source, r⟩) ∧
            ((∃ pattern existing r', (r.register m).value =
                .error ⟨.conflict pattern existing, r'⟩) ↔
              outline source conditions = outline source' conditions' ∨
                ∃ other ∈ r.routes, other.expression ≠ p.expression ∧
                  other.expression = p'.expression) := by
  have hexpression := expression_eq_iff hcompile hcompile' h h'
  refine ⟨hexpression, fun heq path => ?_, ?_⟩
  · have hregex := regex_eq hcompile hcompile' (hexpression.mpr heq)
    refine ⟨by rw [Pattern.isMatch, Pattern.isMatch, hregex], map_snd_captures_eq hregex ?_ path⟩
    rw [length_names_of_compile hcompile, length_names_of_compile hcompile', heq]
  · rintro config ops r route hroute rfl m rfl rfl
    have hnodup : (r.routes.map Route.expression).Nodup :=
      (tracks_after config ops).nodup_expressions
    have hsource : route.source = source := Pattern.source_of_compile hcompile
    have hconflict (pattern existing : String) (r' : Router) :
        (r.register m).value = .error ⟨.conflict pattern existing, r'⟩ ↔
          r' = r ∧ pattern = m.pattern ∧
            ∃ old ∈ r.routes, old.expression = p'.expression ∧ old.source = existing :=
      Router.value_register_eq_conflict hnodup hcompile'
    constructor
    · intro heq
      exact (hconflict _ _ _).mpr ⟨rfl, rfl, route, hroute, hexpression.mpr heq, hsource⟩
    constructor
    · rintro ⟨pattern, existing, r', hrefused⟩
      obtain ⟨-, -, old, hold, hsame, -⟩ := (hconflict _ _ _).mp hrefused
      by_cases hown : old.expression = route.pattern.expression
      · exact .inl (hexpression.mp (hown.symm.trans hsame))
      · exact .inr ⟨old, hold, hown, hsame⟩
    · rintro (heq | ⟨other, hother, -, hsame⟩)
      · exact ⟨_, _, _, (hconflict _ _ _).mpr
          ⟨rfl, rfl, route, hroute, hexpression.mpr heq, rfl⟩⟩
      · exact ⟨_, _, _, (hconflict _ _ _).mpr ⟨rfl, rfl, other, hother, hsame, rfl⟩⟩

/-- Neither the name of a capture nor a condition that says what holds anyway makes a pattern
another one, and literal text may look like a part of a group. -/
theorem conflict_ofRenamed :
    let r := (Router.ofConfig {}).after [.register (.ofPattern "/a?P<__p0>/:id")]
    (r.register { Mapping.toHandler "/a?P<__p0>/:x" "Users" "show" with
        conditions := Params.empty.insert "x" defaultCapture }).value =
      .error ⟨.conflict "/a?P<__p0>/:x" "/a?P<__p0>/:id", r⟩ := by
  intro r
  let conditions := Params.empty.insert "x" defaultCapture
  have hscan : Piece.scan "/a?P<__p0>/:id".toList =
      [.literal "/a?P<__p0>/".toList, .capture "id".toList] := by
    decide +kernel
  have hscan' : Piece.scan "/a?P<__p0>/:x".toList =
      [.literal "/a?P<__p0>/".toList, .capture "x".toList] := by
    decide +kernel
  have hseparable : Separable "/a?P<__p0>/:id" .empty := by
    refine ⟨?_, fun name _ condition hget => by cases hget⟩
    rw [hscan]
    intro text htext
    obtain rfl : text = "/a?P<__p0>/".toList := by simpa using htext
    decide
  have hseparable' : Separable "/a?P<__p0>/:x" conditions := by
    refine ⟨?_, fun name hname condition hget => ?_⟩
    · rw [hscan']
      intro text htext
      obtain rfl : text = "/a?P<__p0>/".toList := by simpa using htext
      decide
    · rw [captureNames, hscan'] at hname
      obtain rfl : name = "x" := List.mem_singleton.mp hname
      obtain rfl : defaultCapture = condition := Option.some.inj hget
      decide
  have houtline : outline "/a?P<__p0>/:id" .empty = outline "/a?P<__p0>/:x" conditions := by
    rw [outline, outline, hscan, hscan']
    rfl
  have hnames : (Pattern.compile "/a?P<__p0>/:id" .empty).toOption.map (·.names) = some ["id"] ∧
      (Pattern.compile "/a?P<__p0>/:x" conditions).toOption.map (·.names) = some ["x"] := by
    decide +kernel
  obtain ⟨p, hcompile, -⟩ := exists_of_map_compile hnames.1
  obtain ⟨p', hcompile', -⟩ := exists_of_map_compile hnames.2
  have hroute : ⟨p, ⟨"WelcomeController", "index"⟩, .empty, .empty⟩ ∈
      ((Router.ofConfig {}).after [.register (.ofPattern "/a?P<__p0>/:id")]).routes := by
    rw [Router.after_register_eq]
    simp [Declaration.route?, Declaration.handler, Mapping.handler, Mapping.ofPattern, hcompile,
      Router.ofConfig]
  obtain ⟨-, -, hrouter⟩ := conflict_iff_outline_eq hcompile hcompile' hseparable hseparable'
  exact (hrouter {} _ _ hroute rfl _ rfl rfl).1 houtline

end PathRouter
