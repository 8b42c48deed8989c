import ControlPlane.DataSource
import ControlPlane.Json.Record
import ControlPlane.Value

/-! Looking up what a control plane tells about itself. -/
namespace ControlPlane.System

/-- The versions of the software. -/
structure Info where
  controlPlaneVersion : Field String
  sidecarLatestVersion : Field String
  deriving DecidableEq, Repr

structure SamlCertificate where
  certificate : Field String
  deriving DecidableEq, Repr

open Exchange (toValue)

instance : Exchange Info where
  toValue i := .object [("control_plane_version", toValue i.controlPlaneVersion),
    ("sidecar_latest_version", toValue i.sidecarLatestVersion)]
  ofValue? v := do
    return {
      controlPlaneVersion := ← v.attribute? "control_plane_version"
      sidecarLatestVersion := ← v.attribute? "sidecar_latest_version" }

instance : Exchange SamlCertificate where
  toValue c := .object [("certificate", toValue c.certificate)]
  ofValue? v := do return { certificate := ← v.attribute? "certificate" }

namespace Info

def ofJson? (j : Json) : Option Info := do
  let given ← j.fields? ["controlPlaneVersion", "sidecarLatestVersion"]
  return {
    controlPlaneVersion := .known (← Json.fieldD? given "controlPlaneVersion" Json.text? "")
    sidecarLatestVersion := .known (← Json.fieldD? given "sidecarLatestVersion" Json.text? "") }

end Info

def infoLookup : DataSource Info where
  name := "system_info"
  schema := .of (.plain "Versions of the control plane and of the latest sidecar.")
    [("control_plane_version", .computed .string "Version of the control plane."),
      ("sidecar_latest_version", .computed .string "Latest sidecar version available.")]
    []
  lookUp k _ := k.getJson (k.client.url "/v1/systemInfo") [] Info.ofJson?

def samlLookup : DataSource SamlCertificate where
  name := "saml_certificate"
  schema := .of (.plain "Retrieves the X.509 certificate used to sign SAML requests.")
    [("certificate", .computed .string "PEM encoded certificate.")]
    []
  lookUp k _ := do
    let certificate ← k.getJson (k.client.url "/v1/integrations/saml/rsa/cert") []
      (Json.only? "certificate" Json.text?)
    return ⟨.known certificate⟩

end ControlPlane.System
