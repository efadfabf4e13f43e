/-!
The identity of a handler.
-/

namespace PathRouter

/-- What names a handler: an action of a controller. -/
structure HandlerId where
  controller : String
  action : String
deriving DecidableEq, Repr

namespace HandlerId

/-- The identity as text. Different identities may have one text. -/
def render (id : HandlerId) : String := id.controller ++ "#" ++ id.action

end HandlerId

end PathRouter
