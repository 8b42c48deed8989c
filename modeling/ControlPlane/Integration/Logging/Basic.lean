import ControlPlane.Json.Record

/-! Destinations of the logs of sidecars, as the control plane holds them. -/
namespace ControlPlane

namespace Logging

structure CloudWatch where
  region : String
  group : String
  stream : String
  deriving DecidableEq, Repr

structure DatadogLogs where
  apiKey : String
  deriving DecidableEq, Repr

structure Splunk where
  hostname : String
  /-- The port travels as text. -/
  hecPort : String
  accessToken : String
  index : String
  useTls : Bool
  deriving DecidableEq, Repr

end Logging

structure Logging where
  /-- The ID is read and never sent. -/
  id : String
  name : String
  receiveAuditLogs : Bool
  cloudWatch : Option Logging.CloudWatch
  datadog : Option Logging.DatadogLogs
  splunk : Option Logging.Splunk
  deriving DecidableEq, Repr

namespace Logging

namespace CloudWatch

def toJson (c : CloudWatch) : Json :=
  .obj ([("region", .str c.region), ("group", .str c.group)] ++ Json.textMember "stream" c.stream)

def ofJson? (j : Json) : Option CloudWatch := do
  let given ← j.fields? ["region", "group", "stream"]
  return {
    region := ← Json.field? given "region" Json.text?
    group := ← Json.field? given "group" Json.text?
    stream := ← Json.fieldD? given "stream" Json.text? "" }

end CloudWatch

namespace DatadogLogs

def toJson (d : DatadogLogs) : Json := .obj [("apiKey", .str d.apiKey)]

def ofJson? (j : Json) : Option DatadogLogs := do
  let given ← j.fields? ["apiKey"]
  return { apiKey := ← Json.fieldD? given "apiKey" Json.text? "" }

end DatadogLogs

namespace Splunk

def toJson (s : Splunk) : Json :=
  .obj ([("hostname", .str s.hostname), ("hecPort", .str s.hecPort),
    ("accessToken", .str s.accessToken)] ++ Json.textMember "index" s.index ++
    [("useTls", .bool s.useTls)])

def ofJson? (j : Json) : Option Splunk := do
  let given ← j.fields? ["hostname", "hecPort", "accessToken", "index", "useTls"]
  return {
    hostname := ← Json.field? given "hostname" Json.text?
    hecPort := ← Json.field? given "hecPort" Json.text?
    accessToken := ← Json.fieldD? given "accessToken" Json.text? ""
    index := ← Json.fieldD? given "index" Json.text? ""
    useTls := ← Json.fieldD? given "useTls" Json.bool? false }

end Splunk

def toJson (l : Logging) : Json :=
  .obj ([("name", .str l.name), ("receiveAuditLogs", .bool l.receiveAuditLogs)] ++
    Json.optionMember "cloudWatch" CloudWatch.toJson l.cloudWatch ++
    Json.optionMember "datadog" DatadogLogs.toJson l.datadog ++
    Json.optionMember "splunk" Splunk.toJson l.splunk)

def ofJson? (j : Json) : Option Logging := do
  let given ← j.fields? ["id", "name", "receiveAuditLogs", "cloudWatch", "datadog", "splunk"]
  return {
    id := ← Json.fieldD? given "id" Json.text? ""
    name := ← Json.field? given "name" Json.text?
    receiveAuditLogs := ← Json.fieldD? given "receiveAuditLogs" Json.bool? false
    cloudWatch := ← Json.fieldD? given "cloudWatch" (Json.option? CloudWatch.ofJson?) none
    datadog := ← Json.fieldD? given "datadog" (Json.option? DatadogLogs.ofJson?) none
    splunk := ← Json.fieldD? given "splunk" (Json.option? Splunk.ofJson?) none }

end Logging
end ControlPlane
