import PathRouter.Dispatch.Dispatcher
import PathRouter.Service.Uri

/-!
Serving requests. A service hands each request to the handler that the path of its target leads to.
-/

namespace PathRouter

/-- A request. -/
structure Request where
  method : String
  uri : Uri
  body : String
deriving DecidableEq, Repr

/-- The answer to a request. -/
structure Response where
  status : Nat
  body : String
deriving DecidableEq, Repr

/-- A handler of requests, which may fail with an `ε`. -/
abbrev Endpoint (ε : Type) : Type := Request → Params → Except ε Response

/-- Why a request has no answer. -/
inductive ServiceError (ε : Type) where
  /-- There is no handler for it. -/
  | dispatch (e : DispatchError)
  /-- Its handler failed. -/
  | handler (e : ε)

/-- Serves requests. -/
structure Service (ε : Type) where
  dispatcher : Dispatcher (Endpoint ε)

namespace Service

/-- Serves one request. -/
def call {ε : Type} (s : Service ε) (request : Request) :
    Traced (Except (ServiceError ε) Response) := do
  Traced.tell (.incomingRequest request.method request.uri.render)
  match ← s.dispatcher.lookup request.uri.path with
  | .error e => return .error (.dispatch e)
  | .ok (handler, params) =>
    match handler request params with
    | .ok response => return .ok response
    | .error e => return .error (.handler e)

end Service

end PathRouter
