import ControlPlane.Http.Exchange

/-! Servers that answer from a script. -/
namespace ControlPlane.Http

/-- The replies to the requests of a route, in turn. The last one is given for ever. -/
abbrev Script := List (String × List Reply)

namespace Script

/-- A reply of these statuses has no body, whatever is meant to be in it. -/
def isBodiless (s : Status) : Bool := s = 204 || s = 304

def reply (status : Status) (body : List UInt8) : Reply :=
  .complete status (if isBodiless status then [] else body)

def noReply : Reply := .complete 501 "no reply".toUTF8.toList

/-- What comes of a reply to a request for its head alone. -/
def headOf : Reply → Reply
  | .truncated status => .complete status []
  | .complete status _ => .complete status []
  | reply => reply

def nth (replies : List Reply) (n : Nat) : Reply :=
  (replies[n]? <|> replies.getLast?).getD noReply

def server (script : Script) : Server := fun history request =>
  let earlier := history.countP fun r => r.route = request.route
  let reply := nth ((script.lookup request.route).getD []) earlier
  if request.method = .other "HEAD" then headOf reply else reply

end Script
end ControlPlane.Http
