import PathRouter.Event
import PathRouter.Path
import PathRouter.Router.Error
import PathRouter.Router.Mapping
import PathRouter.Router.Route

/-!
Routers. A router tries its routes in the order of their declaration and takes the first that
matches; no two of its routes have the same expression.
-/

namespace PathRouter

/-- The settings of a router. -/
structure Config where
  /-- The directory that the router is mounted in; paths are matched below it. -/
  subDir : String := ""
  /-- The controller of routes that name none. -/
  defaultController : String := "WelcomeController"
  /-- The action of routes that name none. -/
  defaultAction : String := "index"
  /-- The controller for paths that no route matches. -/
  notFoundController : String := "NotFoundController"
deriving DecidableEq, Repr

/-- Routes in the order of their declaration, and settings. -/
structure Router where
  routes : List Route
  config : Config

/-- What a call on a router comes to that fails. A call works on the router in place, so that it
leaves one after a failure, too. -/
structure Failure (ε : Type) where
  error : ε
  /-- The router that the call leaves. -/
  router : Router

/-- A failure stands for its error. -/
instance {ε : Type} : CoeOut (Failure ε) ε := ⟨Failure.error⟩

/-- The route that a path leads to. -/
structure Resolved where
  route : Route
  params : Params

namespace Resolved

/-- The handler of the route. -/
def handler (m : Resolved) : HandlerId := m.route.handler

end Resolved

/-- What a path leads to, whether a route matches or not. -/
structure Dispatch where
  handler : HandlerId
  params : Params
  /-- The route that matches. -/
  route : Option Route

namespace Dispatch

/-- What a path leads to that a route matches. -/
def ofResolved (m : Resolved) : Dispatch := ⟨m.handler, m.params, some m.route⟩

/-- What a path leads to that no route matches. -/
def fallback (handler : HandlerId) : Dispatch := ⟨handler, .empty, none⟩

/-- Whether no route matches. -/
def isFallback (d : Dispatch) : Bool := d.route.isNone

end Dispatch

namespace Mapping

/-- The handler that the declaration names, with the defaults for what it leaves out. -/
def handler (m : Mapping) (config : Config) : HandlerId where
  controller := m.controller.getD config.defaultController
  action := m.action.getD config.defaultAction

/-- The route that is declared. -/
def build (m : Mapping) (config : Config) : Except Pattern.ExpressionError Route :=
  Route.compile m.pattern (m.handler config) m.params m.conditions

end Mapping

namespace Router

/-- A router without routes. -/
def ofConfig (config : Config) : Router := ⟨[], config⟩

/-- How many routes there are. -/
def size (r : Router) : Nat := r.routes.length

/-- Removes all routes. -/
def clear (r : Router) : Router := { r with routes := [] }

/-- Sets the directory that the router is mounted in. -/
def setSubDir (r : Router) (subDir : String) : Router :=
  { r with config := { r.config with subDir } }

/-- Sets the controller of routes declared from now on that name none. -/
def setDefaultController (r : Router) (controller : String) : Router :=
  { r with config := { r.config with defaultController := controller } }

/-- Sets the action of routes declared from now on that name none, and of paths that no route
matches. -/
def setDefaultAction (r : Router) (action : String) : Router :=
  { r with config := { r.config with defaultAction := action } }

/-- Sets the controller for paths that no route matches. -/
def setNotFoundController (r : Router) (controller : String) : Router :=
  { r with config := { r.config with notFoundController := controller } }

/-! ### Declaring routes -/

/-- The route with the given expression. -/
def withExpression? (r : Router) (expression : String) : Option Route :=
  r.routes.find? (·.expression == expression)

/-- The route that a declaration adds, or why it adds none. -/
def admission (r : Router) (m : Mapping) : Except RouterError Route :=
  match m.build r.config with
  | .error e => .error (.expression e)
  | .ok route =>
    match r.withExpression? route.expression with
    | some existing => .error (.conflict route.source existing.source)
    | none => .ok route

/-- Adds a route. -/
def register (r : Router) (m : Mapping) : Traced (Except (Failure RouterError) Router) :=
  match r.admission m with
  | .error e => .give (.error ⟨e, r⟩)
  | .ok route => do
    Traced.tell (.routeRegistered route.source route.expression route.handler)
    return .ok { r with routes := r.routes ++ [route] }

/-- The words with which a program ends that cannot do without a route. -/
def declareFailure (e : RouterError) (m : Mapping) : String :=
  e.message ++ ": pattern = " ++ Text.quote m.pattern

/-- Adds a route that the program cannot do without; the error is a message for its user. -/
def declare (r : Router) (m : Mapping) : Traced (Except (Failure String) Router) := do
  match ← r.register m with
  | .ok r => return .ok r
  | .error failure => return .error ⟨declareFailure failure m, failure.router⟩

/-- The router that a call leaves, whether it fails or not. -/
def left {ε : Type} : Except (Failure ε) Router → Router
  | .ok r => r
  | .error failure => failure.router

/-! ### Finding routes -/

/-- The path that routes are matched against, for a request target. -/
def normalize (r : Router) (target : String) : String := Path.normalize target r.config.subDir

/-- The first of some routes that matches a path. -/
def firstMatch (path : String) : List Route → Traced (Option Resolved)
  | [] => .give none
  | route :: rest => do
    Traced.tell (.testingRoute route.source path)
    match route.paramsFor path with
    | some params => return some ⟨route, params⟩
    | none => firstMatch path rest

/-- The first route that matches a request target. -/
def resolve (r : Router) (target : String) : Traced (Option Resolved) := do
  let path := r.normalize target
  let found ← firstMatch path r.routes
  match found with
  | some m => Traced.tell (.routeMatched path m.route.source m.handler)
  | none => Traced.tell (.noRouteMatched path r.size)
  return found

/-- The handler for paths that no route matches. -/
def notFoundHandler (r : Router) : HandlerId :=
  ⟨r.config.notFoundController, r.config.defaultAction⟩

/-- What a request target leads to. -/
def dispatch (r : Router) (target : String) : Traced Dispatch := do
  match ← r.resolve target with
  | some m => return .ofResolved m
  | none => return .fallback r.notFoundHandler

end Router

end PathRouter
