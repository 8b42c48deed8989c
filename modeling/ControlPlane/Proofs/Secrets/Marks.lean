import ControlPlane.Proofs.Secrets.Kinds

/-!
What is marked sensitive. The veil of an object hides what its description marks as sensitive, and
nothing else.
-/
namespace ControlPlane

mutual

/-- The paths of the attributes that are marked sensitive. -/
def Block.sensitivePaths : Block → List (List String)
  | .mk _ attributes blocks => Attribute.sensitivePaths attributes ++ Block.sensitivePathsIn blocks

def AttributeType.sensitivePaths : AttributeType → List (List String)
  | .nested _ attributes => Attribute.sensitivePaths attributes
  | .list element => element.sensitivePaths
  | _ => []

def Attribute.sensitivePaths : List (String × Attribute) → List (List String)
  | [] => []
  | (name, .mk type _ _ sensitive) :: rest =>
    (if sensitive then [[name]] else type.sensitivePaths.map (name :: ·)) ++
      Attribute.sensitivePaths rest

def Block.sensitivePathsIn : List (String × Nesting × Block) → List (List String)
  | [] => []
  | (name, _, block) :: rest =>
    block.sensitivePaths.map (name :: ·) ++ Block.sensitivePathsIn rest

end

namespace Value

/-- Changes the values of a name of an object. -/
def mapMember (name : String) (f : Value → Value) : Value → Value
  | .object members => .object (members.map fun m => if m.1 = name then (m.1, f m.2) else m)
  | value => value

/-- Hides the text at a path, which leads through each of the objects of a list. -/
def hideAt : List String → Value → Value
  | [], .text _ => .text ""
  | [], value => value
  | name :: path, .list elements => .list (elements.map (mapMember name (hideAt path)))
  | name :: path, value => value.mapMember name (hideAt path)

def hideAll (paths : List (List String)) (value : Value) : Value :=
  paths.foldl (fun value path => value.hideAt path) value

end Value

open Exchange (toValue)

namespace Field

theorem toValue_veil (x : Field String) : toValue x.veil = (toValue x).hideAt [] := by
  cases x <;> rfl

theorem toValue_mapElems {α : Type} [Exchange α] {f : α → α} {name : String} {path : List String}
    (hf : ∀ a, toValue (f a) = (toValue a).mapMember name (Value.hideAt path))
    (x : Field (List α)) : toValue (x.mapElems f) = (toValue x).hideAt (name :: path) := by
  cases x with
  | null | unknown => rfl
  | known xs =>
    have helems : (xs.map f).map toValue =
        (xs.map toValue).map (Value.mapMember name (Value.hideAt path)) := by
      simp only [List.map_map, Function.comp_def, hf]
    exact congrArg Value.list helems

end Field

theorem Datadog.toValue_veil (s : State) :
    toValue (veil.state s) = (toValue s).hideAt ["api_key"] := by
  obtain ⟨id, name, apiKey⟩ := s
  cases apiKey <;> rfl

theorem Webhook.toValue_veil (s : State) : toValue (veil.state s) = (toValue s).hideAt ["url"] := by
  obtain ⟨id, name, url⟩ := s
  cases url <;> rfl

theorem ServiceAccount.toValue_veil (s : State) :
    toValue (veil.state s) = (toValue s).hideAt ["client_secret"] := by
  obtain ⟨id, displayName, permissionIds, clientId, clientSecret⟩ := s
  cases clientSecret <;> rfl

theorem SidecarCredentials.toValue_veil (s : State) :
    toValue (veil.state s) = (toValue s).hideAt ["client_secret"] := by
  obtain ⟨id, sidecarId, clientId, clientSecret⟩ := s
  cases clientSecret <;> rfl

namespace Logging

theorem DatadogState.toValue_veil (d : DatadogState) :
    toValue d.veil = (toValue d).mapMember "api_key" (Value.hideAt []) := by
  obtain ⟨apiKey⟩ := d
  cases apiKey <;> rfl

theorem SplunkState.toValue_veil (b : SplunkState) :
    toValue b.veil = (toValue b).mapMember "access_token" (Value.hideAt []) := by
  obtain ⟨hostname, hecPort, accessToken, index, useTls⟩ := b
  cases accessToken <;> rfl

theorem toValue_veil (s : State) : toValue (veil.state s) =
    ((toValue s).hideAt ["datadog", "api_key"]).hideAt ["splunk", "access_token"] := by
  have hdatadog := Field.toValue_mapElems DatadogState.toValue_veil s.datadog
  have hsplunk := Field.toValue_mapElems SplunkState.toValue_veil s.splunk
  change Value.object [_, _, _, _, ("datadog", toValue (s.datadog.mapElems _)),
    ("splunk", toValue (s.splunk.mapElems _))] = _
  rw [hdatadog, hsplunk]
  rfl

end Logging

theorem ResourceKind.toValue_veil (kind : ResourceKind) (s : kind.State) :
    toValue (kind.veil.state s) =
      (toValue s).hideAll kind.resource.schema.block.sensitivePaths := by
  cases kind with
  | datadog => exact Datadog.toValue_veil s
  | logging => exact Logging.toValue_veil s
  | microsoftTeams | slack => exact Webhook.toValue_veil s
  | serviceAccount => exact ServiceAccount.toValue_veil s
  | sidecarCredentials => exact SidecarCredentials.toValue_veil s
  | dataLabel | policy | repository | binding | authSettings | userAccount | sidecar | listener =>
    rfl

end ControlPlane
