import ControlPlane.Proofs.Logging.Drift
import ControlPlane.Proofs.Secrets

/-!
The secrets of all that is managed. No check looks at them, no address has them in it, and they are
written over or kept.
-/
namespace ControlPlane

namespace Field
variable {α : Type}

/-- Hides which secret is known. -/
def veil (x : Field String) : Field String := x.map fun _ => ""

@[simp] theorem veil_veil (x : Field String) : x.veil.veil = x.veil := by
  cases x <;> rfl

/-- Changes each block of a list. -/
def mapElems (f : α → α) (x : Field (List α)) : Field (List α) := x.map (List.map f)

theorem elems_mapElems (f : α → α) (x : Field (List α)) : (x.mapElems f).elems = x.elems.map f := by
  cases x <;> rfl

theorem first_mapElems (f : α → α) (x : Field (List α)) : (x.mapElems f).first = x.first.map f := by
  rw [first, elems_mapElems, List.head?_map, first]

theorem mapElems_single (f : α → α) (block : Option α) :
    (single block).mapElems f = single (block.map f) := by
  cases block <;> rfl

theorem mapElems_mapElems {f : α → α} (hf : ∀ a, f (f a) = f a) (x : Field (List α)) :
    (x.mapElems f).mapElems f = x.mapElems f := by
  cases x with
  | null | unknown => rfl
  | known xs => simp [mapElems, map, hf]

theorem presence_mapElems (f : α → α) (x : Field (List α)) :
    Validation.presence (x.mapElems f) = Validation.presence x := by
  cases x with
  | null | unknown => rfl
  | known xs => cases xs <;> rfl

end Field

namespace Datadog

def veil : Veil State where
  state s := { s with apiKey := s.apiKey.veil }
  json := Json.hideMember "apiKey"

theorem body_veiled (s : State) : (body (veil.state s)).map veil.json = (body s).map veil.json := by
  obtain ⟨id, name, apiKey⟩ := s
  cases name with
  | null | unknown => rfl
  | known name => cases apiKey <;> rfl

theorem refresh_veiled (d : Datadog) (s : State) :
    veil.state (refresh d (veil.state s)) = veil.state (refresh d s) := by
  simp only [veil, refresh]
  cases d.apiKey.filter (· ≠ "") with
  | none => simp only [Field.veil_veil]
  | some key => rfl

theorem covered : veil.Covers resource :=
  .of_parts (fun _ => rfl) (fun _ _ => rfl) (fun _ _ => rfl) body_veiled (fun _ _ => by simp [veil])
    refresh_veiled ⟨rfl, rfl, rfl⟩ ⟨rfl, rfl, rfl⟩ ⟨rfl, rfl, rfl⟩ (by simp [resource])

end Datadog

namespace Webhook

def veil : Veil State where
  state s := { s with url := s.url.veil }
  json := Json.hideMember "url"

theorem body_veiled (s : State) : (body (veil.state s)).map veil.json = (body s).map veil.json := by
  obtain ⟨id, name, url⟩ := s
  cases name with
  | null | unknown => rfl
  | known name => cases url <;> rfl

theorem refresh_veiled (w : Webhook) (s : State) :
    veil.state (refresh w (veil.state s)) = veil.state (refresh w s) := by
  simp only [veil, refresh]
  cases w.url.filter (· ≠ "") with
  | none => simp only [Field.veil_veil]
  | some url => rfl

theorem covered (service : Service) : veil.Covers (resource service) :=
  .of_parts (fun _ => rfl) (fun _ _ => rfl) (fun _ _ => rfl) body_veiled (fun _ _ => by simp [veil])
    refresh_veiled ⟨rfl, rfl, rfl⟩ ⟨rfl, rfl, rfl⟩ ⟨rfl, rfl, rfl⟩ (by simp [resource])

end Webhook

namespace ServiceAccount

/-- The secret is told by the control plane, and never sent. -/
def veil : Veil State where
  state s := { s with clientSecret := s.clientSecret.veil }

theorem refresh_veiled (a : ServiceAccount) (s : State) :
    veil.state (refresh a (veil.state s)) = veil.state (refresh a s) :=
  congrArg (State.mk _ _ _ _) (Field.veil_veil s.clientSecret)

theorem covered : veil.Covers resource :=
  .of_parts (fun _ => rfl) (fun _ _ => rfl) (fun _ _ => rfl) (fun _ => rfl) (fun _ _ => rfl)
    refresh_veiled ⟨rfl, rfl, rfl⟩ ⟨rfl, rfl, rfl⟩ ⟨rfl, rfl, rfl⟩ (by simp [resource])

end ServiceAccount

namespace SidecarCredentials

/-- The secret is told by the control plane, and never sent. -/
def veil : Veil State where
  state s := { s with clientSecret := s.clientSecret.veil }

theorem refresh_veiled (c : Info) (s : State) :
    veil.state (refresh c (veil.state s)) = veil.state (refresh c s) :=
  congrArg (State.mk _ _ _) (Field.veil_veil s.clientSecret)

theorem covered : veil.Covers resource :=
  .of_parts (fun _ => rfl) (fun _ _ => rfl) (fun _ _ => rfl) (fun _ => rfl) (fun _ _ => rfl)
    refresh_veiled ⟨rfl, rfl, rfl⟩ ⟨rfl, rfl, rfl⟩ ⟨rfl, rfl, rfl⟩ (by simp [resource])

end SidecarCredentials

namespace Logging

def DatadogState.veil (d : DatadogState) : DatadogState := { d with apiKey := d.apiKey.veil }

def SplunkState.veil (b : SplunkState) : SplunkState :=
  { b with accessToken := b.accessToken.veil }

/-- The secrets are in the blocks. -/
def veil : Veil State where
  state s := { s with
    datadog := s.datadog.mapElems DatadogState.veil
    splunk := s.splunk.mapElems SplunkState.veil }
  json j := (j.mapMember "datadog" (Json.hideMember "apiKey")).mapMember "splunk"
    (Json.hideMember "accessToken")

theorem DatadogState.veil_veil (d : DatadogState) : d.veil.veil = d.veil :=
  congrArg DatadogState.mk (Field.veil_veil d.apiKey)

theorem SplunkState.veil_veil (b : SplunkState) : b.veil.veil = b.veil := by
  simp only [veil, Field.veil_veil]

theorem veil_veil (s : State) : veil.state (veil.state s) = veil.state s := by
  simp only [veil, Field.mapElems_mapElems DatadogState.veil_veil,
    Field.mapElems_mapElems SplunkState.veil_veil]

theorem DatadogLogs.ofState_veil (d : DatadogState) :
    ofState d.veil = (ofState d).map fun _ => ⟨""⟩ := by
  obtain ⟨apiKey⟩ := d
  cases apiKey <;> rfl

theorem Splunk.ofState_veil (b : SplunkState) :
    ofState b.veil = (ofState b).map withholding := by
  obtain ⟨hostname, hecPort, accessToken, index, useTls⟩ := b
  cases hostname with
  | null | unknown => rfl
  | known hostname =>
    cases hecPort with
    | null | unknown => rfl
    | known hecPort => cases accessToken <;> rfl

theorem ofState_veil (s : State) : ofState (veil.state s) = (ofState s).map withholding := by
  have hdatadog := mapM_option_map DatadogLogs.ofState_veil s.datadog.first
  have hsplunk := mapM_option_map Splunk.ofState_veil s.splunk.first
  simp only [ofState, veil, Field.first_mapElems, hdatadog, hsplunk]
  cases s.cloudWatch.first.mapM CloudWatch.ofState with
  | error failure => rfl
  | ok cloudWatch =>
    cases s.datadog.first.mapM DatadogLogs.ofState with
    | error failure => rfl
    | ok datadog =>
      cases s.splunk.first.mapM Splunk.ofState with
      | error failure => rfl
      | ok splunk => cases s.name.require "name" <;> rfl

theorem json_toJson (l : Logging) : veil.json l.toJson =
    .obj ([("name", .str l.name)] ++ [("receiveAuditLogs", .bool l.receiveAuditLogs)] ++
      Json.optionMember "cloudWatch" CloudWatch.toJson l.cloudWatch ++
      Json.optionMember "datadog" (fun d => d.toJson.hideMember "apiKey") l.datadog ++
      Json.optionMember "splunk" (fun b => b.toJson.hideMember "accessToken") l.splunk) := by
  simp [veil, toJson, Json.mapMember, Json.map_optionMember]

theorem Splunk.hideMember_withholding (b : Splunk) :
    b.withholding.toJson.hideMember "accessToken" = b.toJson.hideMember "accessToken" := by
  simp [toJson, withholding, Json.hideMember, Json.mapMember]

theorem json_withholding (l : Logging) : veil.json l.withholding.toJson = veil.json l.toJson := by
  simp only [json_toJson, withholding, Json.optionMember_map, Splunk.hideMember_withholding]
  rfl

theorem body_veiled (s : State) : (body (veil.state s)).map veil.json = (body s).map veil.json := by
  rw [body, body, ofState_veil]
  cases ofState s with
  | error failure => rfl
  | ok l => exact congrArg Except.ok l.json_withholding

theorem veil_keepSecret (told : String) (prior : Field String) :
    (keepSecret told prior.veil).veil = (keepSecret told prior).veil := by
  unfold keepSecret
  split_ifs
  · exact Field.veil_veil prior
  · rfl

theorem DatadogLogs.veil_toState (d : DatadogLogs) (prior : Option DatadogState) :
    (d.toState (prior.map DatadogState.veil)).veil = (d.toState prior).veil := by
  cases prior with
  | none => rfl
  | some prior => exact congrArg DatadogState.mk (veil_keepSecret d.apiKey prior.apiKey)

theorem Splunk.veil_toState (b : Splunk) (prior : SplunkState) :
    (b.toState prior.veil).veil = (b.toState prior).veil := by
  simp only [toState, SplunkState.veil, veil_keepSecret]

theorem refresh_veiled (l : Logging) (s : State) :
    veil.state (refresh l (veil.state s)) = veil.state (refresh l s) := by
  have hprior (b : Option SplunkState) :
      (b.map SplunkState.veil).getD .empty = (b.getD .empty).veil := by
    cases b <;> rfl
  simp only [veil, refresh, Field.first_mapElems, Field.mapElems_single, Option.map_map,
    Function.comp_def, DatadogLogs.veil_toState, hprior, Splunk.veil_toState]

theorem validate_veiled (s : State) : validate (veil.state s) = validate s := by
  simp only [validate, veil, Field.presence_mapElems, Field.elems_mapElems, List.zipIdx_map,
    List.flatMap_map]
  rfl

theorem covered : veil.Covers resource :=
  .of_parts validate_veiled (fun _ _ => rfl) (fun _ _ => rfl) body_veiled
    (fun id s => congrArg (fun s => { s with id := .known id }) (veil_veil s)) refresh_veiled
    ⟨rfl, rfl, rfl⟩ ⟨rfl, rfl, rfl⟩ ⟨rfl, rfl, rfl⟩ (by simp [resource])

end Logging

namespace ResourceKind

def veil : (kind : ResourceKind) → Veil kind.State
  | .datadog => Datadog.veil
  | .logging => Logging.veil
  | .microsoftTeams | .slack => Webhook.veil
  | .serviceAccount => ServiceAccount.veil
  | .sidecarCredentials => SidecarCredentials.veil
  | .dataLabel | .policy | .repository | .binding | .authSettings | .userAccount | .sidecar
  | .listener => {}

theorem veil_covers (kind : ResourceKind) : kind.veil.Covers kind.resource := by
  cases kind with
  | datadog => exact Datadog.covered
  | logging => exact Logging.covered
  | microsoftTeams => exact Webhook.covered .microsoftTeams
  | slack => exact Webhook.covered .slack
  | serviceAccount => exact ServiceAccount.covered
  | sidecarCredentials => exact SidecarCredentials.covered
  | dataLabel | policy | repository | binding | authSettings | userAccount | sidecar | listener =>
    exact .of_no_secrets _

end ResourceKind
end ControlPlane
