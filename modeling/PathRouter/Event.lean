import PathRouter.Router.HandlerId

/-!
Events: what a router tells about its work, and computations that tell it.
-/

namespace PathRouter

/-- How much an event matters. -/
inductive Level where
  | debug
  | trace
deriving DecidableEq, Repr

namespace Level

/-- The name of a level. -/
def render : Level → String
  | debug => "DEBUG"
  | trace => "TRACE"

end Level

/-- Something that a router tells about its work. -/
inductive Event where
  /-- A route has been added. -/
  | routeRegistered (pattern expression : String) (handler : HandlerId)
  /-- A route is tried on a path. -/
  | testingRoute (pattern path : String)
  /-- A route matches a path. -/
  | routeMatched (path pattern : String) (handler : HandlerId)
  /-- None of so many routes matches a path. -/
  | noRouteMatched (path : String) (routes : Nat)
  /-- A handler has been found for a path. -/
  | dispatching (path : String) (handler : HandlerId)
  /-- A request has come in. -/
  | incomingRequest (method uri : String)
deriving DecidableEq, Repr

namespace Event

/-- How much the event matters. -/
def level : Event → Level
  | testingRoute _ _ => .trace
  | _ => .debug

/-- The words of the event. -/
def message : Event → String
  | routeRegistered _ _ _ => "route registered"
  | testingRoute _ _ => "testing route"
  | routeMatched _ _ _ => "route matched"
  | noRouteMatched _ _ => "no route matched"
  | dispatching _ _ => "dispatching"
  | incomingRequest _ _ => "incoming request"

/-- The particulars of the event, in order. -/
def fields : Event → List (String × String)
  | routeRegistered pattern expression handler =>
    [("pattern", pattern), ("expression", expression), ("handler", handler.render)]
  | testingRoute pattern path => [("pattern", pattern), ("path", path)]
  | routeMatched path pattern handler =>
    [("path", path), ("pattern", pattern), ("handler", handler.render)]
  | noRouteMatched path routes =>
    [("path", path), ("routes", String.ofList (Nat.toDigits 10 routes))]
  | dispatching path handler => [("path", path), ("handler", handler.render)]
  | incomingRequest method uri => [("method", method), ("uri", uri)]

end Event

/-- A result and the events on the way to it, in order. -/
structure Traced (α : Type) where
  value : α
  events : List Event

namespace Traced

/-- A result without events. -/
def give (a : α) : Traced α := ⟨a, []⟩

/-- Goes on from a result. -/
def andThen (t : Traced α) (f : α → Traced β) : Traced β :=
  ⟨(f t.value).value, t.events ++ (f t.value).events⟩

instance : Monad Traced where
  pure := give
  bind := andThen

/-- Tells an event. -/
def tell (e : Event) : Traced Unit := ⟨(), [e]⟩

end Traced

end PathRouter
