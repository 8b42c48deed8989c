import ControlPlane.Client
import ControlPlane.Text.Blank

/-!
Operations on the objects of a control plane. An operation is one request that is built from the
state of an object, and a reply that is written back into the state.
-/
namespace ControlPlane

inductive OperationKind where
  | create
  | read
  | update
  | delete
  deriving DecidableEq, Repr

/-- What the status for a missing object stands for. -/
inductive MissingPolicy where
  | fail
  /-- The object is gone, which is an answer and no failure. -/
  | accept
  deriving DecidableEq, Repr

namespace OperationKind

def name : OperationKind → String
  | .create => "create"
  | .read => "read"
  | .update => "update"
  | .delete => "delete"

def missingPolicy : OperationKind → MissingPolicy
  | .read | .delete => .accept
  | .create | .update => .fail

end OperationKind

inductive Outcome where
  /-- The request succeeded and its reply is in the state. -/
  | applied
  | notFound
  deriving DecidableEq, Repr

/-- Writes into a state, step by step. What is written before a failure stays written. -/
abbrev Writer (S : Type) := EStateM Failure S

/-- How a reply is read, and how it is written into a state. -/
abbrev Response (S : Type) := Json → Option (Writer S Unit)

def Response.of {S R : Type} (read : Json → Option R) (write : R → S → S) : Response S :=
  fun j => (read j).map fun r => modify (write r)

structure Operation (S : Type) where
  resource : String
  kind : OperationKind
  method : Http.Method
  /-- The address of the request, given the address of the control plane. -/
  url : S → String → Except Failure String
  onMissing : MissingPolicy := kind.missingPolicy
  body : Option (S → Except Failure Json) := none
  response : Option (Response S) := none

namespace Operation
variable {S : Type}

/-- What is left of an operation when it ends. -/
structure Run (S : Type) where
  outcome : Except Failure Outcome
  state : S
  session : Session

/-- The payload of the request. -/
def payload (op : Operation S) (state : S) : Except Failure Http.Payload :=
  match op.body with
  | none => .ok .none
  | some encode => (encode state).map .json

/-- Writes what the body of a reply tells. A blank body tells nothing. -/
def takeIn (op : Operation S) (url : String) (reply : List UInt8) : Writer S Unit := fun state =>
  match op.response with
  | none => .ok () state
  | some response =>
    if reply.all Text.isBlankByte then .ok () state
    else match (Json.parse? reply).bind response with
      | none => .error (.decode url) state
      | some write => write state

/-- Whether a failure only says that the object is gone. -/
def accepts (op : Operation S) (failure : Failure) : Bool :=
  op.onMissing = .accept && failure.isNotFound

/-- Sends the request once it is complete, and writes the reply into the state. -/
def execute (op : Operation S) (k : Connection) (state : S) (session : Session) : Run S :=
  match op.url state k.client.baseUrl with
  | .error failure => ⟨.error failure, state, session⟩
  | .ok url =>
    match op.payload state with
    | .error failure => ⟨.error failure, state, session⟩
    | .ok payload =>
      match k.send op.method url [] payload session with
      | .error failure session =>
        if op.accepts failure then ⟨.ok .notFound, state, session⟩
        else ⟨.error failure, state, session⟩
      | .ok reply session =>
        match op.takeIn url reply state with
        | .error failure state => ⟨.error failure, state, session⟩
        | .ok () state => ⟨.ok .applied, state, session⟩

end Operation
end ControlPlane
