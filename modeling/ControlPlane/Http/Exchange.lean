import ControlPlane.Http.Method
import ControlPlane.Http.Status
import ControlPlane.Json.Basic

/-!
Requests, replies, and the servers that give the one for the other. Replies have no headers, so that
none of them leads elsewhere.
-/
namespace ControlPlane.Http

inductive Payload where
  | none
  | form (text : String)
  | json (value : Json)

namespace Payload

def contentType? : Payload → Option String
  | .none => Option.none
  | .form _ => some "application/x-www-form-urlencoded"
  | .json _ => some "application/json"

end Payload

/-- A request as it arrives. -/
structure Request where
  method : Method
  target : String
  authorization : Option String
  payload : Payload

namespace Request

/-- The name of the software that sends. -/
def agent : String := "terraform-provider-cyral/0.1.0"

/-- The method and the place that a request is for. -/
def route (r : Request) : String := s!"{r.method.name} {r.target}"

end Request

inductive Reply where
  /-- No connection was made, so nothing was sent. -/
  | unreachable
  /-- The connection ended before a status came. -/
  | dropped
  /-- The connection ended within the body. -/
  | truncated (status : Status)
  | complete (status : Status) (body : List UInt8)

/-- A server may answer in view of all the requests that it received before, the oldest first. -/
abbrev Server := List Request → Request → Reply

/-- A server that no connection leads to. -/
def Server.unreachable : Server := fun _ _ => .unreachable

end ControlPlane.Http
