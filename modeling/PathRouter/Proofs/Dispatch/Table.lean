import PathRouter.Proofs.Dispatch.Run
import PathRouter.Proofs.Params

/-!
# The table of handlers after a run

A dispatcher keeps handlers by controller and action, and a controller comes into being when it is
first named. What a lookup in this table gives is a function of the operations alone.

* Each operation names at most one controller and binds handlers to some of its actions
  (`DispatcherOp.write?`); the three ways to bind differ in nothing else. `named` and `bindings`
  collect this over a run, as flat lists that never look at a table.
* `Tabulates` says that a table agrees with such lists; `tabulates_perform` is the step and
  `tabulates_after` the run.
* `table_after` is the result: the last binding of an identity counts, and of the two errors the
  one says that the controller has never been named, the other that the action has never been bound.
-/

namespace PathRouter

variable {H : Type}

/-! ## What operations write -/

namespace DispatcherOp

/-- The controller that an operation names, and the handlers that it binds to actions of it. -/
def write? : DispatcherOp H → Option (String × List (String × H))
  | .handle id handler => some (id.controller, [(id.action, handler)])
  | .controller name actions => some (name, actions)
  | .route name action handler => some (name, [(action, handler)])
  | .router _ | .lookup _ => none

/-- The controller that an operation names. -/
def named? (op : DispatcherOp H) : Option String := op.write?.map (·.1)

/-- The operation on the router. -/
def routerOp? : DispatcherOp H → Option Op
  | .router op => some op
  | _ => none

/-- The bindings that an operation makes, in order. -/
def bindings (op : DispatcherOp H) : List (HandlerId × H) :=
  match op.write? with
  | some (name, actions) => actions.map fun action => (⟨name, action.1⟩, action.2)
  | none => []

end DispatcherOp

/-- The controllers that a run names. -/
def named (ops : List (DispatcherOp H)) : List String := ops.filterMap DispatcherOp.named?

/-- The bindings that a run makes, in order. -/
def bindings (ops : List (DispatcherOp H)) : List (HandlerId × H) :=
  ops.flatMap DispatcherOp.bindings

/-- The handler of the last binding of an identity. -/
def lastBinding (ops : List (DispatcherOp H)) (id : HandlerId) : Option H :=
  (bindings ops).reverse.lookup id

theorem lookup_map_mk (name : String) (actions : List (String × H)) (id : HandlerId) :
    (actions.map fun action => (HandlerId.mk name action.1, action.2)).lookup id =
      if name = id.controller then actions.lookup id.action else none := by
  induction actions with
  | nil => simp
  | cons action rest ih =>
    rw [List.map_cons, lookup_cons_ite, ih, lookup_cons_ite]
    have hid : HandlerId.mk name action.1 = id ↔ name = id.controller ∧ action.1 = id.action :=
      ⟨fun h => h ▸ ⟨rfl, rfl⟩, fun ⟨hname, haction⟩ => by rw [hname, haction]⟩
    simp only [hid]
    by_cases hname : name = id.controller <;> simp [hname]

theorem lookup_bindings_of_ne {op : DispatcherOp H} {id : HandlerId}
    (h : op.named? ≠ some id.controller) : op.bindings.reverse.lookup id = none := by
  rw [DispatcherOp.bindings]
  rw [DispatcherOp.named?] at h
  cases hwrite : op.write? with
  | none => rfl
  | some entry =>
    rw [hwrite] at h
    rw [← List.map_reverse, lookup_map_mk, if_neg]
    exact fun hname => h (congrArg some hname)

/-! ## Reading a table -/

namespace Controller

theorem get?_bind (c : Controller H) (action key : String) (handler : H) :
    (c.bind action handler).get? key = if action = key then some handler else c.get? key := by
  simp only [bind, get?, Std.HashMap.getElem?_insert, beq_iff_eq]

theorem get?_bindAll (c : Controller H) (actions : List (String × H)) (key : String) :
    (c.bindAll actions).get? key = (actions.reverse.lookup key).or (c.get? key) := by
  induction actions generalizing c with
  | nil => rfl
  | cons action rest ih =>
    show ((c.bind action.1 action.2).bindAll rest).get? key = _
    rw [ih, get?_bind, List.reverse_cons, List.lookup_append, Option.or_assoc, lookup_cons_ite]
    by_cases hkey : action.1 = key
    · rw [if_pos hkey, if_pos hkey, Option.some_or]
    · rw [if_neg hkey, if_neg hkey, List.lookup_nil, Option.none_or]

end Controller

namespace Dispatcher

/-- The handler that the table has for an identity. -/
def bound? (d : Dispatcher H) (id : HandlerId) : Option H :=
  d.controllers[id.controller]?.bind (·.get? id.action)

/-- The three ways in which reading a table ends. -/
theorem get_cases (d : Dispatcher H) (id : HandlerId) :
    (id.controller ∉ d.controllers ∧ d.bound? id = none ∧
        d.get id = .error (.controllerNotFound id.controller)) ∨
      (id.controller ∈ d.controllers ∧ d.bound? id = none ∧
        d.get id = .error (.actionNotFound id.controller id.action)) ∨
      (id.controller ∈ d.controllers ∧ ∃ handler, d.bound? id = some handler ∧
        d.get id = .ok handler) := by
  have hmem : id.controller ∈ d.controllers ↔ d.controllers[id.controller]?.isSome :=
    Std.HashMap.mem_iff_isSome_getElem?
  rw [hmem, get, bound?]
  cases d.controllers[id.controller]? with
  | none => exact .inl ⟨by simp, rfl, rfl⟩
  | some c =>
    rw [Option.bind_some]
    cases hhandler : c.get? id.action with
    | none => exact .inr (.inl ⟨rfl, rfl, by simp [hhandler]⟩)
    | some handler => exact .inr (.inr ⟨rfl, handler, rfl, by simp [hhandler]⟩)

/-- What an identity without a handler leads to. -/
def missing (d : Dispatcher H) (id : HandlerId) : DispatchError :=
  if id.controller ∈ d.controllers then .actionNotFound id.controller id.action
  else .controllerNotFound id.controller

theorem get_of_bound?_eq_none {d : Dispatcher H} {id : HandlerId} (h : d.bound? id = none) :
    d.get id = .error (d.missing id) := by
  rcases d.get_cases id with ⟨hmem, -, hget⟩ | ⟨hmem, -, hget⟩ | ⟨-, handler, hbound, -⟩
  · rw [hget, missing, if_neg hmem]
  · rw [hget, missing, if_pos hmem]
  · rw [h] at hbound
    cases hbound

theorem get_eq_ok_iff {d : Dispatcher H} {id : HandlerId} {handler : H} :
    d.get id = .ok handler ↔ d.bound? id = some handler := by
  rcases d.get_cases id with ⟨-, hbound, hget⟩ | ⟨-, hbound, hget⟩ | ⟨-, other, hbound, hget⟩ <;>
    simp [hbound, hget]

theorem get_eq_controllerNotFound_iff {d : Dispatcher H} {id : HandlerId} {name : String} :
    d.get id = .error (.controllerNotFound name) ↔
      name = id.controller ∧ name ∉ d.controllers := by
  rcases d.get_cases id with ⟨hmem, -, hget⟩ | ⟨hmem, -, hget⟩ | ⟨hmem, other, -, hget⟩ <;>
    rw [hget]
  · simp only [Except.error.injEq, DispatchError.controllerNotFound.injEq]
    exact ⟨fun h => ⟨h.symm, h ▸ hmem⟩, fun h => h.1.symm⟩
  all_goals
    simp only [reduceCtorEq, Except.error.injEq, false_iff, not_and]
    exact fun h hnot => hnot (h ▸ hmem)

theorem get_eq_actionNotFound_iff {d : Dispatcher H} {id : HandlerId} {name action : String} :
    d.get id = .error (.actionNotFound name action) ↔
      id = ⟨name, action⟩ ∧ name ∈ d.controllers ∧ d.bound? id = none := by
  rcases d.get_cases id with ⟨hmem, hbound, hget⟩ | ⟨hmem, hbound, hget⟩ |
    ⟨hmem, other, hbound, hget⟩ <;> rw [hget]
  · simp only [reduceCtorEq, Except.error.injEq, false_iff, not_and]
    rintro rfl h
    exact absurd h hmem
  · simp only [Except.error.injEq, DispatchError.actionNotFound.injEq, hbound, and_true]
    constructor
    · rintro ⟨rfl, rfl⟩
      exact ⟨rfl, hmem⟩
    · rintro ⟨rfl, -⟩
      exact ⟨rfl, rfl⟩
  · simp [hbound]

/-- What an identity leads to depends on its controller being there and on its own handler; with the
image of the handler under `f` it leads to that. -/
theorem get_map {K : Type} {f : H → K} {d : Dispatcher H} {d' : Dispatcher K} {id : HandlerId}
    (hmem : id.controller ∈ d.controllers ↔ id.controller ∈ d'.controllers)
    (hbound : d'.bound? id = (d.bound? id).map f) : d'.get id = (d.get id).map f := by
  rcases d.get_cases id with ⟨h, hnone, hget⟩ | ⟨h, hnone, hget⟩ | ⟨-, handler, hsome, hget⟩ <;>
    rw [hget]
  · exact get_eq_controllerNotFound_iff.mpr ⟨rfl, fun h' => h (hmem.mpr h')⟩
  · rw [hnone, Option.map_none] at hbound
    exact get_eq_actionNotFound_iff.mpr ⟨rfl, hmem.mp h, hbound⟩
  · rw [hsome, Option.map_some] at hbound
    exact get_eq_ok_iff.mpr hbound

theorem get_congr {d d' : Dispatcher H} {id : HandlerId}
    (hmem : id.controller ∈ d.controllers ↔ id.controller ∈ d'.controllers)
    (hbound : d'.bound? id = d.bound? id) : d'.get id = d.get id := by
  have hget : d'.get id = (d.get id).map fun handler => handler :=
    get_map hmem (by rw [hbound, Option.map_id'])
  rw [hget]
  cases d.get id <;> rfl

theorem bound?_modifyController (d : Dispatcher H) (name : String) (actions : List (String × H))
    (id : HandlerId) :
    (d.modifyController name (·.bindAll actions)).bound? id =
      (if name = id.controller then actions.reverse.lookup id.action else none).or
        (d.bound? id) := by
  simp only [bound?, modifyController, Std.HashMap.getElem?_insert, beq_iff_eq]
  by_cases hname : name = id.controller
  · -- the controller that is changed, or one without actions if it was not there
    rw [if_pos hname, if_pos hname, Option.bind_some, Controller.get?_bindAll, controller,
      Std.HashMap.getD_eq_getD_getElem?, hname]
    cases d.controllers[id.controller]? with
    | none => simp [Controller.empty, Controller.get?]
    | some c => rfl
  · rw [if_neg hname, if_neg hname, Option.none_or]

end Dispatcher

/-! ## The step and the run -/

/-- The table has the controllers in `names`, and the last binding in `log` for each identity. -/
structure Tabulates (d : Dispatcher H) (names : List String) (log : List (HandlerId × H)) :
    Prop where
  mem_controllers : ∀ name, name ∈ d.controllers ↔ name ∈ names
  bound? : ∀ id, d.bound? id = log.reverse.lookup id

theorem tabulates_ofRouter (router : Router) :
    Tabulates (.ofRouter router : Dispatcher H) [] [] where
  mem_controllers name := by simp [Dispatcher.ofRouter]
  bound? id := by simp [Dispatcher.bound?, Dispatcher.ofRouter]

variable {d : Dispatcher H} {names : List String} {log : List (HandlerId × H)}

theorem Tabulates.modifyController (h : Tabulates d names log) (name : String)
    (actions : List (String × H)) :
    Tabulates (d.modifyController name (·.bindAll actions)) (names ++ [name])
      (log ++ actions.map fun action => (⟨name, action.1⟩, action.2)) where
  mem_controllers other := by
    rw [Dispatcher.modifyController, Std.HashMap.mem_insert, h.mem_controllers, List.mem_append,
      List.mem_singleton, beq_iff_eq, eq_comm, or_comm]
  bound? id := by
    rw [Dispatcher.bound?_modifyController, h.bound?, List.reverse_append, List.lookup_append,
      ← List.map_reverse, lookup_map_mk]

theorem Tabulates.of_write?_eq_none (h : Tabulates d names log) {d' : Dispatcher H}
    {op : DispatcherOp H} (htable : d'.controllers = d.controllers) (hwrite : op.write? = none) :
    Tabulates d' (names ++ op.named?.toList) (log ++ op.bindings) := by
  have hnamed : op.named? = none := by rw [DispatcherOp.named?, hwrite, Option.map_none]
  have hbindings : op.bindings = [] := by rw [DispatcherOp.bindings, hwrite]
  rw [hnamed, hbindings, Option.toList_none, List.append_nil, List.append_nil]
  exact ⟨fun name => htable ▸ h.mem_controllers name,
    fun id => by rw [← h.bound?, Dispatcher.bound?, htable, Dispatcher.bound?]⟩

/-- **The step.** -/
theorem tabulates_perform (h : Tabulates d names log) (op : DispatcherOp H) :
    Tabulates (d.perform op).value (names ++ op.named?.toList) (log ++ op.bindings) := by
  cases op with
  | handle id handler => exact h.modifyController id.controller [(id.action, handler)]
  | controller name actions => exact h.modifyController name actions
  | route name action handler => exact h.modifyController name [(action, handler)]
  | router op => exact h.of_write?_eq_none rfl rfl
  | lookup target => exact h.of_write?_eq_none rfl rfl

theorem named_cons (op : DispatcherOp H) (ops : List (DispatcherOp H)) :
    named (op :: ops) = op.named?.toList ++ named ops := by
  rw [named, List.filterMap_cons]
  cases op.named? <;> rfl

theorem bindings_cons (op : DispatcherOp H) (ops : List (DispatcherOp H)) :
    bindings (op :: ops) = op.bindings ++ bindings ops :=
  List.flatMap_cons

/-- **The run.** -/
theorem tabulates_after (h : Tabulates d names log) (ops : List (DispatcherOp H)) :
    Tabulates (d.after ops) (names ++ named ops) (log ++ bindings ops) := by
  induction ops generalizing d names log with
  | nil => simpa [named, bindings] using h
  | cons op ops ih =>
    rw [named_cons, bindings_cons, ← List.append_assoc, ← List.append_assoc]
    exact ih (tabulates_perform h op)

/-- A new dispatcher has the controllers and the last bindings of its run. -/
theorem tabulates_after_ofRouter (router : Router) (ops : List (DispatcherOp H)) :
    Tabulates ((Dispatcher.ofRouter router).after ops) (named ops) (bindings ops) := by
  simpa using tabulates_after (tabulates_ofRouter router) ops

/-! ## Independence -/

/-- Identities that are written alike belong to different controllers. -/
theorem HandlerId.controller_ne_of_render_eq {id id' : HandlerId} (hne : id ≠ id')
    (h : id.render = id'.render) : id.controller ≠ id'.controller := by
  intro hcontroller
  refine hne ?_
  obtain ⟨name, action⟩ := id
  obtain ⟨name', action'⟩ := id'
  obtain rfl : name = name' := hcontroller
  exact congrArg (HandlerId.mk name) ((String.append_right_inj (name ++ "#")).mp h)

theorem lastBinding_filter {p : DispatcherOp H → Bool} {id : HandlerId}
    {ops : List (DispatcherOp H)} (hp : ∀ op, p op = false → op.named? ≠ some id.controller) :
    lastBinding (ops.filter p) id = lastBinding ops id := by
  induction ops with
  | nil => rfl
  | cons op ops ih =>
    simp only [lastBinding] at ih ⊢
    cases hop : p op with
    | true =>
      rw [List.filter_cons_of_pos hop, bindings_cons, bindings_cons, List.reverse_append,
        List.reverse_append, List.lookup_append, List.lookup_append, ih]
    | false =>
      rw [List.filter_cons_of_neg (by simp [hop]), bindings_cons, List.reverse_append,
        List.lookup_append, lookup_bindings_of_ne (hp op hop), Option.or_none, ih]

theorem mem_named_filter {p : DispatcherOp H → Bool} {name : String} {ops : List (DispatcherOp H)}
    (hp : ∀ op, p op = false → op.named? ≠ some name) :
    name ∈ named (ops.filter p) ↔ name ∈ named ops := by
  simp only [named, List.mem_filterMap, List.mem_filter]
  refine exists_congr fun op => and_congr_left fun hnamed => and_iff_left_of_imp fun _ => ?_
  cases hop : p op with
  | true => rfl
  | false => exact absurd hnamed (hp op hop)

/-- An identity leads to the same without the operations on another controller. -/
theorem get_after_filter (router : Router) (ops : List (DispatcherOp H)) {id : HandlerId}
    {other : String} (hother : id.controller ≠ other) :
    ((Dispatcher.ofRouter router).after (ops.filter (·.named? ≠ some other))).get id =
      ((Dispatcher.ofRouter router).after ops).get id := by
  have hp : ∀ op : DispatcherOp H, decide (op.named? ≠ some other) = false →
      op.named? ≠ some id.controller := by
    intro op hop hnamed
    refine of_decide_eq_false hop fun hname => hother ?_
    rw [hnamed] at hname
    exact Option.some.inj hname
  have htable := tabulates_after_ofRouter router ops
  have hfiltered := tabulates_after_ofRouter router (ops.filter (·.named? ≠ some other))
  refine Dispatcher.get_congr ?_ ?_
  · rw [htable.mem_controllers, hfiltered.mem_controllers]
    exact (mem_named_filter hp).symm
  · rw [htable.bound?, hfiltered.bound?]
    exact lastBinding_filter hp

/-! ## Router and table -/

/-- The router of a dispatcher is what its own operations make of it. -/
theorem Dispatcher.router_after (d : Dispatcher H) (ops : List (DispatcherOp H)) :
    (d.after ops).router = d.router.after (ops.filterMap DispatcherOp.routerOp?) := by
  induction ops generalizing d with
  | nil => rfl
  | cons op ops ih =>
    rw [after_cons, ih]
    cases op <;> rfl

theorem Dispatcher.controllers_perform_congr {d d' : Dispatcher H}
    (h : d.controllers = d'.controllers) (op : DispatcherOp H) :
    (d.perform op).value.controllers = (d'.perform op).value.controllers := by
  obtain ⟨router, controllers⟩ := d
  obtain ⟨router', controllers'⟩ := d'
  obtain rfl : controllers = controllers' := h
  cases op <;> rfl

theorem Dispatcher.controllers_perform_of_write?_eq_none {op : DispatcherOp H}
    (h : op.write? = none) (d : Dispatcher H) :
    (d.perform op).value.controllers = d.controllers := by
  cases op with
  | handle | controller | route => cases h
  | router | lookup => rfl

/-- The table of a dispatcher is what its own operations make of it. -/
theorem Dispatcher.controllers_after {d d' : Dispatcher H} (h : d.controllers = d'.controllers)
    (ops : List (DispatcherOp H)) :
    (d.after ops).controllers = (d'.after (ops.filter (·.write?.isSome))).controllers := by
  induction ops generalizing d d' with
  | nil => exact h
  | cons op ops ih =>
    cases hwrite : op.write? with
    | none =>
      rw [List.filter_cons_of_neg (by simp [hwrite]), after_cons]
      exact ih ((controllers_perform_of_write?_eq_none hwrite d).trans h)
    | some entry =>
      rw [List.filter_cons_of_pos (by simp [hwrite]), after_cons, after_cons]
      exact ih (controllers_perform_congr h op)

/-- **The table of handlers after any run.** An identity leads to the handler of its last binding.
It has no controller exactly if no operation named that, and no action exactly if the controller was
named and the identity was never bound. Different identities that are written alike do not touch
each other: one leads to the same without all that was done to the controller of the other. And the
router and the table each are what their own operations alone would have made of them. -/
theorem table_after (router : Router) (ops : List (DispatcherOp H)) :
    let d := (Dispatcher.ofRouter router).after ops
    (∀ id handler, d.get id = .ok handler ↔ lastBinding ops id = some handler) ∧
      (∀ id name, d.get id = .error (.controllerNotFound name) ↔
        name = id.controller ∧ name ∉ named ops) ∧
      (∀ id name action, d.get id = .error (.actionNotFound name action) ↔
        id = ⟨name, action⟩ ∧ name ∈ named ops ∧ ∀ handler, (id, handler) ∉ bindings ops) ∧
      (∀ id id' : HandlerId, id ≠ id' → id.render = id'.render →
        ((Dispatcher.ofRouter router).after
          (ops.filter (·.named? ≠ some id'.controller))).get id = d.get id) ∧
      d.router = router.after (ops.filterMap DispatcherOp.routerOp?) ∧
      d.controllers =
        ((Dispatcher.ofRouter router).after (ops.filter (·.write?.isSome))).controllers := by
  intro d
  have htable : Tabulates d (named ops) (bindings ops) := tabulates_after_ofRouter router ops
  refine ⟨fun id handler => ?_, fun id name => ?_, fun id name action => ?_,
    fun id id' hne hrender => ?_, Dispatcher.router_after _ ops,
    Dispatcher.controllers_after rfl ops⟩
  · rw [Dispatcher.get_eq_ok_iff, htable.bound?, lastBinding]
  · rw [Dispatcher.get_eq_controllerNotFound_iff, htable.mem_controllers]
  · rw [Dispatcher.get_eq_actionNotFound_iff, htable.mem_controllers, htable.bound?,
      lookup_reverse_eq_none_iff]
  · exact get_after_filter router ops (HandlerId.controller_ne_of_render_eq hne hrender)

example : (HandlerId.mk "a#b" "c").render = (HandlerId.mk "a" "b#c").render := by decide

end PathRouter
