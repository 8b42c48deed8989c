import ControlPlane.Integration.Logging.Basic
import ControlPlane.Integration.Logging.State
import ControlPlane.Resource.Basic

/-! Destinations of logs as managed objects. Their secrets are not told again once they are set. -/
namespace ControlPlane.Logging

def CloudWatch.ofState (c : CloudWatchState) : Except Failure CloudWatch := do
  return {
    region := ← c.region.require "cloud_watch.region"
    group := ← c.group.require "cloud_watch.group"
    stream := c.stream.text }

def DatadogLogs.ofState (d : DatadogState) : Except Failure DatadogLogs := do
  return { apiKey := ← d.apiKey.require "datadog.api_key" }

def Splunk.ofState (s : SplunkState) : Except Failure Splunk := do
  return {
    hostname := ← s.hostname.require "splunk.hostname"
    hecPort := Text.Decimal.render (← s.hecPort.require "splunk.hec_port")
    accessToken := ← s.accessToken.require "splunk.access_token"
    index := s.index.text
    useTls := s.useTls.getD false }

def ofState (s : State) : Except Failure Logging := do
  let cloudWatch ← s.cloudWatch.first.mapM CloudWatch.ofState
  let datadog ← s.datadog.first.mapM DatadogLogs.ofState
  let splunk ← s.splunk.first.mapM Splunk.ofState
  let name ← s.name.require "name"
  return {
    id := "", name, cloudWatch, datadog, splunk
    receiveAuditLogs := s.receiveAuditLogs.getD false }

def CloudWatch.toState (c : CloudWatch) : CloudWatchState where
  region := .known c.region
  group := .known c.group
  stream := .ofText c.stream

/-- A secret that is not told stays as it is. -/
def keepSecret (told : String) (prior : Field String) : Field String :=
  if told = "" then prior else .known told

def DatadogLogs.toState (d : DatadogLogs) (prior : Option DatadogState) : DatadogState where
  apiKey := keepSecret d.apiKey ((prior.map (·.apiKey)).getD .null)

/-- A port that is no number stays as it is. -/
def Splunk.toState (s : Splunk) (prior : SplunkState) : SplunkState where
  hostname := .known s.hostname
  hecPort := match Text.Decimal.parse? s.hecPort with
    | some port => .known port
    | none => prior.hecPort
  accessToken := keepSecret s.accessToken prior.accessToken
  index := .ofText s.index
  useTls := .ofFlag s.useTls prior.useTls

def SplunkState.empty : SplunkState := ⟨.null, .null, .null, .null, .null⟩

def refresh (l : Logging) (s : State) : State where
  id := s.id
  name := .known l.name
  receiveAuditLogs := .known l.receiveAuditLogs
  cloudWatch := .single (l.cloudWatch.map CloudWatch.toState)
  datadog := .single (l.datadog.map (·.toState s.datadog.first))
  splunk := .single (l.splunk.map (·.toState (s.splunk.first.getD .empty)))

def collectionUrl (_ : State) (base : String) : Except Failure String :=
  .ok (base ++ "/v1/integrations/logging")

def objectUrl (s : State) (base : String) : Except Failure String := do
  return base ++ "/v1/integrations/logging/" ++ (← s.id.require "id")

def body (s : State) : Except Failure Json := (ofState s).map toJson

def imported (id : String) : State := ⟨.known id, .null, .null, .null, .null, .null⟩

def resource : Resource State where
  name := "integration_logging"
  schema := schema
  validate := validate
  applyDefaults := applyDefaults
  markComputed s := { s with id := .unknown }
  importState id := .ok (imported id)
  create :=
    { resource := "integration_logging", kind := .create, method := .post, url := collectionUrl
      body := some body
      response := some (.of (Json.only? "id" Json.text?) fun id s => { s with id := .known id }) }
  read :=
    { resource := "integration_logging", kind := .read, method := .get, url := objectUrl
      response := some (.of (Json.only? "integration" ofJson?) refresh) }
  update := some
    { resource := "integration_logging", kind := .update, method := .put, url := objectUrl
      body := some body }
  delete :=
    { resource := "integration_logging", kind := .delete, method := .delete, url := objectUrl }

end ControlPlane.Logging
