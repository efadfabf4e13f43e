import PathRouter.Router.Basic

/-!
# Runs of a router

A program uses a router by a sequence of operations: it declares routes, changes settings, clears
the table and asks for paths. `Router.run` performs such a sequence and keeps the events that the
operations tell; `Router.after` is the router that it leaves. A declaration that fails leaves the
router as it was, whether the failure comes back as an error (`Op.register`) or as the message with
which the program would end (`Op.declare`).
-/

namespace PathRouter

namespace Traced

variable {α β : Type}

@[simp] theorem value_bind (t : Traced α) (f : α → Traced β) :
    (t >>= f).value = (f t.value).value := rfl

@[simp] theorem events_bind (t : Traced α) (f : α → Traced β) :
    (t >>= f).events = t.events ++ (f t.value).events := rfl

end Traced

/-- An operation on a router. -/
inductive Op where
  /-- Declares a route; a failure is an error. -/
  | register (m : Mapping)
  /-- Declares a route that the program cannot do without; the failure is caught. -/
  | declare (m : Mapping)
  | clear
  | setSubDir (subDir : String)
  | setDefaultController (controller : String)
  | setDefaultAction (action : String)
  | setNotFoundController (controller : String)
  | resolve (target : String)
  | dispatch (target : String)

namespace Router

/-- Performs one operation. -/
def perform (r : Router) : Op → Traced Router
  | .register m => return left (← r.register m)
  | .declare m => return left (← r.declare m)
  | .clear => return r.clear
  | .setSubDir subDir => return r.setSubDir subDir
  | .setDefaultController controller => return r.setDefaultController controller
  | .setDefaultAction action => return r.setDefaultAction action
  | .setNotFoundController controller => return r.setNotFoundController controller
  | .resolve target => do
    let _ ← r.resolve target
    return r
  | .dispatch target => do
    let _ ← r.dispatch target
    return r

/-- Performs the operations one after the other. -/
def run (r : Router) : List Op → Traced Router
  | [] => return r
  | op :: ops => do
    let r' ← r.perform op
    r'.run ops

/-- The router after some operations. -/
def after (r : Router) (ops : List Op) : Router := (r.run ops).value

@[simp] theorem after_nil (r : Router) : r.after [] = r := rfl

@[simp] theorem after_cons (r : Router) (op : Op) (ops : List Op) :
    r.after (op :: ops) = (r.perform op).value.after ops := rfl

/-! ## What a declaration does

Both ways to declare a route come down to `admission`: where it gives a route, that route is put
behind the others, and where it gives an error, the router that is left is the one there was. -/

/-- Registering a route answers with the table that has it, or with the error of its admission. -/
theorem value_register (r : Router) (m : Mapping) :
    (r.register m).value =
      match r.admission m with
      | .ok route => .ok { r with routes := r.routes ++ [route] }
      | .error e => .error ⟨e, r⟩ := by
  unfold register
  cases r.admission m with
  | error e => rfl
  | ok route => rfl

theorem value_register_eq_error_iff {r r' : Router} {m : Mapping} {e : RouterError} :
    (r.register m).value = .error ⟨e, r'⟩ ↔ r.admission m = .error e ∧ r' = r := by
  rw [value_register]
  cases r.admission m with
  | error e' => simp [eq_comm]
  | ok route => simp

/-- Declaring a route does what registering it does; only the error is put into words. -/
theorem value_declare (r : Router) (m : Mapping) :
    (r.declare m).value =
      (r.register m).value.mapError fun failure =>
        ⟨declareFailure failure.error m, failure.router⟩ := by
  unfold declare
  rw [Traced.value_bind]
  cases (r.register m).value with
  | error failure => rfl
  | ok r' => rfl

/-- **A registration that fails leaves the router as it was.** -/
theorem router_of_register_eq_error {r : Router} {m : Mapping} {failure : Failure RouterError}
    (h : (r.register m).value = .error failure) : failure.router = r :=
  (value_register_eq_error_iff.mp h).2

theorem after_register (r : Router) (m : Mapping) :
    r.after [.register m] = left (r.register m).value := rfl

/-- To the router it makes no difference in which of the two ways a route is declared. -/
theorem after_declare (r : Router) (m : Mapping) :
    r.after [.declare m] = r.after [.register m] := by
  show left (r.declare m).value = left (r.register m).value
  rw [value_declare]
  cases (r.register m).value with
  | error failure => rfl
  | ok r' => rfl

end Router

end PathRouter
