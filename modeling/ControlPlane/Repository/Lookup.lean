import ControlPlane.DataSource
import ControlPlane.Listing
import ControlPlane.Repository.State

/-! Looking up repositories by name and type. -/
namespace ControlPlane.Repository

structure Item where
  id : Field String
  name : Field String
  type : Field String
  labels : StringList
  nodes : Field (List NodeState)
  deriving DecidableEq, Repr

structure Query where
  name : Field String
  type : Field String
  found : Field (List Item)
  deriving DecidableEq, Repr

open Exchange (toValue)

instance : Exchange Item where
  toValue i := .object [("id", toValue i.id), ("name", toValue i.name), ("type", toValue i.type),
    ("labels", toValue i.labels), ("repo_node", toValue i.nodes)]
  ofValue? v := do
    return {
      id := ← v.attribute? "id"
      name := ← v.attribute? "name"
      type := ← v.attribute? "type"
      labels := ← v.attribute? "labels"
      nodes := ← v.attribute? "repo_node" }

instance : Exchange Query where
  toValue q := .object [("name", toValue q.name), ("type", toValue q.type),
    ("repository_list", toValue q.found)]
  ofValue? v := do
    return {
      name := ← v.attribute? "name"
      type := ← v.attribute? "type"
      found := ← v.attribute? "repository_list" }

/-- A repository in the list of all repositories, where the ID stands beside it. -/
structure Entry where
  id : String
  repository : Repository
  deriving DecidableEq, Repr

namespace Entry

def ofJson? (j : Json) : Option Entry := do
  let given ← j.fields? ["id", "repo"]
  return {
    id := ← Json.field? given "id" Json.text?
    repository := ← Json.field? given "repo" Repository.ofJson? }

def toItem (e : Entry) : Item where
  id := .known e.id
  name := .known e.repository.name
  type := .known e.repository.type
  labels := .knownStrings e.repository.labels
  nodes := .known (e.repository.nodes.map fun n =>
    { name := .ofText n.name, host := .ofText n.host, port := .ofNumber n.port
      dynamic := .known n.dynamic })

end Entry

def filters (q : Query) : List (String × String) :=
  (q.name.known?.map fun name => ("name", name)).toList ++
    (q.type.known?.map fun type => ("type", type)).toList

def listing (k : Connection) (q : Query) : Listing Entry where
  url := k.client.url "/v1/repos"
  filters := filters q
  pageSize := Listing.defaultPageSize
  page j := do Json.fieldD? (← j.fields? ["repos"]) "repos" (Json.list? Entry.ofJson?) []
  cursor e := e.id

def lookup : DataSource Query where
  name := "repository"
  schema := .of (.plain "Retrieves the repositories matching a name and a type.")
    [("name", .optional .string "Regular expression the repository names must match."),
      ("type", .optional .string s!"Repository type, one of: {Text.commas types}."),
      ("repository_list", .computed (.nested .list
          [("id", .computed .string "ID of the repository."),
            ("name", .computed .string "Name of the repository."),
            ("type", .computed .string "Type of the repository."),
            ("labels", .computed .stringList "Labels of the repository."),
            ("repo_node", .computed (.nested .list
                [("name", .computed .string "Name of the node."),
                  ("host", .computed .string "Host of the node."),
                  ("port", .computed .number "Port of the node."),
                  ("dynamic", .computed .bool "Whether the node is dynamic.")])
              "Nodes of the repository.")])
        "Matching repositories.")]
    []
  validate q := Validation.oneOf (.of "type") q.type types
  lookUp k q := do
    let entries ← (listing k q).items k
    return { q with found := .known (entries.map Entry.toItem) }

end ControlPlane.Repository
