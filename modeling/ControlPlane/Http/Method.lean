/-! Request methods. -/
namespace ControlPlane.Http

inductive Method where
  | get
  | post
  | put
  | patch
  | delete
  | other (name : String)
  deriving DecidableEq, Repr

namespace Method

def name : Method → String
  | .get => "GET"
  | .post => "POST"
  | .put => "PUT"
  | .patch => "PATCH"
  | .delete => "DELETE"
  | .other name => name

def ofName (name : String) : Method :=
  match name with
  | "GET" => .get
  | "POST" => .post
  | "PUT" => .put
  | "PATCH" => .patch
  | "DELETE" => .delete
  | name => .other name

end Method
end ControlPlane.Http
