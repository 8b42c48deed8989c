import ControlPlane.Resource.Basic
import ControlPlane.Value

/-!
The credentials of a sidecar as managed objects. They never change: to have others is to make new
ones. The secret is told once, when they are made.
-/
namespace ControlPlane.SidecarCredentials

structure State where
  id : Field String
  sidecarId : Field String
  clientId : Field String
  clientSecret : Field String
  deriving DecidableEq, Repr

open Exchange (toValue)

instance : Exchange State where
  toValue s := .object [("id", toValue s.id), ("sidecar_id", toValue s.sidecarId),
    ("client_id", toValue s.clientId), ("client_secret", toValue s.clientSecret)]
  ofValue? v := do
    return {
      id := ← v.attribute? "id"
      sidecarId := ← v.attribute? "sidecar_id"
      clientId := ← v.attribute? "client_id"
      clientSecret := ← v.attribute? "client_secret" }

def schema : Schema := .of
  (.plain
    "Creates the credentials a sidecar uses to authenticate against the control plane.")
  [("id", .id),
    ("sidecar_id", .required .string "ID of the sidecar the credentials belong to."),
    ("client_id", .computed .string "Client ID of the sidecar."),
    ("client_secret", .sensitive (.computed .string "Client secret of the sidecar."))]
  []

/-- New credentials, as they are told. -/
structure Created where
  clientId : String
  clientSecret : String
  deriving DecidableEq, Repr

namespace Created

def ofJson? (j : Json) : Option Created := do
  let given ← j.fields? ["client_id", "client_secret"]
  return {
    clientId := ← Json.field? given "client_id" Json.text?
    clientSecret := ← Json.field? given "client_secret" Json.text? }

def write (c : Created) (s : State) : State :=
  { s with
    id := .known c.clientId
    clientId := .known c.clientId
    clientSecret := .known c.clientSecret }

end Created

/-- Credentials as they are told later, without the secret. -/
structure Info where
  sidecarId : String
  clientId : String
  deriving DecidableEq, Repr

namespace Info

def ofJson? (j : Json) : Option Info := do
  let given ← j.fields? ["sidecar_id", "client_id"]
  return {
    sidecarId := ← Json.field? given "sidecar_id" Json.text?
    clientId := ← Json.field? given "client_id" Json.text? }

end Info

def refresh (c : Info) (s : State) : State where
  id := .known c.clientId
  sidecarId := .known c.sidecarId
  clientId := .known c.clientId
  clientSecret := s.clientSecret

def collectionUrl (_ : State) (base : String) : Except Failure String :=
  .ok (base ++ "/v1/users/sidecarAccounts")

def objectUrl (s : State) (base : String) : Except Failure String := do
  return base ++ "/v1/users/sidecarAccounts/" ++ (← s.clientId.require "client_id")

def body (s : State) : Except Failure Json := do
  return .obj [("sidecarId", .str (← s.sidecarId.require "sidecar_id"))]

def imported (id : String) : State := ⟨.known id, .null, .known id, .null⟩

def resource : Resource State where
  name := "sidecar_credentials"
  schema := schema
  markComputed s := { s with id := .unknown, clientId := .unknown, clientSecret := .unknown }
  replaceTriggers prior proposed :=
    Resource.changed "sidecar_id" prior.sidecarId proposed.sidecarId
  importState id := .ok (imported id)
  create :=
    { resource := "sidecar_credentials", kind := .create, method := .post, url := collectionUrl
      body := some body
      response := some (.of Created.ofJson? Created.write) }
  read :=
    { resource := "sidecar_credentials", kind := .read, method := .get, url := objectUrl
      response := some (.of Info.ofJson? refresh) }
  delete :=
    { resource := "sidecar_credentials", kind := .delete, method := .delete, url := objectUrl }

end ControlPlane.SidecarCredentials
