import ControlPlane.Schema
import ControlPlane.Validation
import ControlPlane.Value

/-! The configuration of a destination of logs. -/
namespace ControlPlane.Logging

structure CloudWatchState where
  region : Field String
  group : Field String
  stream : Field String
  deriving DecidableEq, Repr

structure DatadogState where
  apiKey : Field String
  deriving DecidableEq, Repr

structure SplunkState where
  hostname : Field String
  hecPort : Field Int64
  accessToken : Field String
  index : Field String
  useTls : Field Bool
  deriving DecidableEq, Repr

/-- At most one block in each list. -/
structure State where
  id : Field String
  name : Field String
  receiveAuditLogs : Field Bool
  cloudWatch : Field (List CloudWatchState)
  datadog : Field (List DatadogState)
  splunk : Field (List SplunkState)
  deriving DecidableEq, Repr

open Exchange (toValue)

instance : Exchange CloudWatchState where
  toValue c := .object [("region", toValue c.region), ("group", toValue c.group),
    ("stream", toValue c.stream)]
  ofValue? v := do
    return {
      region := ← v.attribute? "region"
      group := ← v.attribute? "group"
      stream := ← v.attribute? "stream" }

instance : Exchange DatadogState where
  toValue d := .object [("api_key", toValue d.apiKey)]
  ofValue? v := do return { apiKey := ← v.attribute? "api_key" }

instance : Exchange SplunkState where
  toValue s := .object [("hostname", toValue s.hostname), ("hec_port", toValue s.hecPort),
    ("access_token", toValue s.accessToken), ("index", toValue s.index),
    ("use_tls", toValue s.useTls)]
  ofValue? v := do
    return {
      hostname := ← v.attribute? "hostname"
      hecPort := ← v.attribute? "hec_port"
      accessToken := ← v.attribute? "access_token"
      index := ← v.attribute? "index"
      useTls := ← v.attribute? "use_tls" }

instance : Exchange State where
  toValue s := .object [("id", toValue s.id), ("name", toValue s.name),
    ("receive_audit_logs", toValue s.receiveAuditLogs), ("cloud_watch", toValue s.cloudWatch),
    ("datadog", toValue s.datadog), ("splunk", toValue s.splunk)]
  ofValue? v := do
    return {
      id := ← v.attribute? "id"
      name := ← v.attribute? "name"
      receiveAuditLogs := ← v.attribute? "receive_audit_logs"
      cloudWatch := ← v.attribute? "cloud_watch"
      datadog := ← v.attribute? "datadog"
      splunk := ← v.attribute? "splunk" }

def schema : Schema := .of
  (.plain ("Sends the logs of the sidecars to a logging service. " ++
    "Exactly one destination block must be given."))
  [("id", .id),
    ("name", .required .string
      "Integration name that will be used internally in the control plane."),
    ("receive_audit_logs", .optionalComputed .bool
      "Whether the control plane audit logs are also sent. Defaults to `false`.")]
  [("cloud_watch", .optional, .mk (.plain "AWS CloudWatch destination.")
      [("region", .required .string "AWS region."),
        ("group", .required .string "CloudWatch log group."),
        ("stream", .optional .string "CloudWatch log stream.")] []),
    ("datadog", .optional, .mk (.plain "Datadog destination.")
      [("api_key", .sensitive (.required .string "Datadog API key."))] []),
    ("splunk", .optional, .mk (.plain "Splunk destination.")
      [("hostname", .required .string "Splunk host."),
        ("hec_port", .required .number "Port of the HTTP event collector."),
        ("access_token", .sensitive (.required .string "HTTP event collector token.")),
        ("index", .optional .string "Splunk index."),
        ("use_tls", .optional .bool "Whether to use TLS.")] [])]

def validate (s : State) : List Diagnostic :=
  Validation.exactlyOneOf .root
      [("cloud_watch", Validation.presence s.cloudWatch),
        ("datadog", Validation.presence s.datadog),
        ("splunk", Validation.presence s.splunk)] ++
    s.splunk.elems.zipIdx.flatMap fun (b, i) =>
      Validation.port (((Path.of "splunk").item i).attr "hec_port") b.hecPort

/-- Audit logs are not sent if nothing else is said. -/
def applyDefaults (s : State) : State :=
  { s with receiveAuditLogs := s.receiveAuditLogs.orDefault false }

end ControlPlane.Logging
