import ControlPlane.Resource.Basic
import ControlPlane.Validation
import ControlPlane.Value

/-! Accounts that applications call the control plane with, as managed objects. -/
namespace ControlPlane

structure ServiceAccount where
  displayName : String
  permissionIds : List String
  deriving DecidableEq, Repr

namespace ServiceAccount

def toJson (a : ServiceAccount) : Json :=
  .obj [("displayName", .str a.displayName), ("permissionIds", .strings a.permissionIds)]

def ofJson? (j : Json) : Option ServiceAccount := do
  let given ← j.fields? ["displayName", "permissionIds"]
  return {
    displayName := ← Json.field? given "displayName" Json.text?
    permissionIds := ← Json.fieldD? given "permissionIds" Json.texts? [] }

structure State where
  id : Field String
  displayName : Field String
  permissionIds : StringList
  clientId : Field String
  clientSecret : Field String
  deriving DecidableEq, Repr

open Exchange (toValue)

instance : Exchange State where
  toValue s := .object [("id", toValue s.id), ("display_name", toValue s.displayName),
    ("permission_ids", toValue s.permissionIds), ("client_id", toValue s.clientId),
    ("client_secret", toValue s.clientSecret)]
  ofValue? v := do
    return {
      id := ← v.attribute? "id"
      displayName := ← v.attribute? "display_name"
      permissionIds := ← v.attribute? "permission_ids"
      clientId := ← v.attribute? "client_id"
      clientSecret := ← v.attribute? "client_secret" }

def schema : Schema := .of (.plain "Manages a service account of the control plane API.")
  [("id", .id),
    ("display_name", .required .string "Name of the service account."),
    ("permission_ids", .required .stringList
      "IDs of the permissions granted to the service account."),
    ("client_id", .computed .string "Client ID of the service account."),
    ("client_secret", .sensitive (.computed .string "Client secret of the service account."))]
  []

def validate (s : State) : List Diagnostic :=
  Validation.notEmpty (.of "permission_ids") s.permissionIds

def ofState (s : State) : Except Failure ServiceAccount := do
  let displayName ← s.displayName.require "display_name"
  return { displayName, permissionIds := s.permissionIds.strings }

/-- Whether two lists hold the same strings, in any order and any number. -/
def sameSet (xs ys : List String) : Bool := xs.all (ys.contains ·) && ys.all (xs.contains ·)

/-- Permissions have no order, so the listed order stays while they are the same. -/
def refresh (a : ServiceAccount) (s : State) : State where
  id := s.id
  displayName := .known a.displayName
  permissionIds :=
    if sameSet s.permissionIds.strings a.permissionIds then s.permissionIds
    else .ofStrings a.permissionIds s.permissionIds
  clientId := s.clientId
  clientSecret := s.clientSecret

/-- A new account, as it is told. The secret is not told again. -/
structure Created where
  clientId : String
  clientSecret : String
  deriving DecidableEq, Repr

namespace Created

def ofJson? (j : Json) : Option Created := do
  let given ← j.fields? ["clientId", "clientSecret"]
  return {
    clientId := ← Json.field? given "clientId" Json.text?
    clientSecret := ← Json.field? given "clientSecret" Json.text? }

def write (c : Created) (s : State) : State :=
  { s with
    id := .known c.clientId
    clientId := .known c.clientId
    clientSecret := .known c.clientSecret }

end Created

def collectionUrl (_ : State) (base : String) : Except Failure String :=
  .ok (base ++ "/v1/users/serviceAccounts")

def objectUrl (s : State) (base : String) : Except Failure String := do
  return base ++ "/v1/users/serviceAccounts/" ++ (← s.clientId.require "client_id")

def body (s : State) : Except Failure Json := (ofState s).map toJson

def imported (id : String) : State := ⟨.known id, .null, .null, .known id, .null⟩

def resource : Resource State where
  name := "service_account"
  schema := schema
  validate := validate
  markComputed s := { s with id := .unknown, clientId := .unknown, clientSecret := .unknown }
  importState id := .ok (imported id)
  create :=
    { resource := "service_account", kind := .create, method := .post, url := collectionUrl
      body := some body
      response := some (.of Created.ofJson? Created.write) }
  read :=
    { resource := "service_account", kind := .read, method := .get, url := objectUrl
      response := some (.of ofJson? refresh) }
  update := some
    { resource := "service_account", kind := .update, method := .patch, url := objectUrl
      body := some body }
  delete := { resource := "service_account", kind := .delete, method := .delete, url := objectUrl }

end ServiceAccount
end ControlPlane
