import InstallManifest.Config.Ranges
import InstallManifest.Manifest.ObjectMeta

/-!
The manifest: the parameters of a cluster's installation, for the agents that carry it out. The
order of its keys is the one in which they are written. Every key may be missing.
-/
namespace InstallManifest
open Yaml

namespace Manifest

/-- A reference to an object by its name. -/
structure Reference where
  name : String
deriving DecidableEq, Repr

structure Networking where
  machineNetwork : List MachineRange
  clusterNetwork : List ClusterRange
  serviceNetwork : List String
  /-- The network plugin; empty if it is not resolved. -/
  networkType : String
  userManagedNetworking : Option Bool
deriving DecidableEq, Repr

/-- How many agents the installation waits for. -/
structure Requirements where
  controlPlaneAgents : UInt32
  workerAgents : UInt32
deriving DecidableEq, Repr

structure Spec where
  imageSetRef : Option Reference
  clusterDeploymentRef : Reference
  networking : Networking
  sshPublicKey : String
  provisionRequirements : Requirements
  apiVip : Option String
  ingressVip : Option String
deriving DecidableEq, Repr

end Manifest

open Manifest in
structure Manifest where
  apiVersion : String
  kind : String
  metadata : ObjectMeta
  spec : Spec
  /-- What has been observed. It is carried along and never interpreted. -/
  status : Option Value

namespace Manifest

def groupVersion : String := "extensions.hive.openshift.io/v1beta1"

def objectKind : String := "AgentClusterInstall"

/-! ## Blank parts -/

def Networking.blank : Networking := ⟨[], [], [], "", none⟩

def Spec.blank : Spec := ⟨none, ⟨""⟩, .blank, "", ⟨0, 0⟩, none, none⟩

def blank : Manifest := ⟨"", "", .blank, .blank, none⟩

/-! ## Views -/

/-- The name of the object; empty if it is not set. -/
def name (m : Manifest) : String := m.metadata.name.getD ""

/-- The network type; empty if it is not resolved. -/
def networkType (m : Manifest) : String := m.spec.networking.networkType

/-- The manifest with another network type. -/
def withNetworkType (m : Manifest) (t : String) : Manifest :=
  { m with spec := { m.spec with networking := { m.spec.networking with networkType := t } } }

/-- Equality up to what does not matter in free-form data: the order of the entries of a mapping in
the status, and the sign of zero. -/
def same (x y : Manifest) : Bool :=
  x.apiVersion == y.apiVersion && x.kind == y.kind && x.metadata.same y.metadata &&
    x.spec == y.spec &&
    match x.status, y.status with
    | none, none => true
    | some v, some w => v.same w
    | _, _ => false

/-! ## As a document -/

def Reference.record (name : String) : Record Value Reference where
  name := name
  blank := ⟨""⟩
  isRepeatable := false
  fields := [.always "name" (·.name) (fun s x => { x with name := s }) .string]

def Networking.record : Record Value Networking where
  name := "struct Networking"
  blank := .blank
  isRepeatable := false
  fields := [
    .list "machineNetwork" (·.machineNetwork) (fun l x => { x with machineNetwork := l })
      (MachineRange.record false).codec,
    .list "clusterNetwork" (·.clusterNetwork) (fun l x => { x with clusterNetwork := l })
      (ClusterRange.record false).codec,
    .list "serviceNetwork" (·.serviceNetwork) (fun l x => { x with serviceNetwork := l }) .string,
    .text "networkType" (·.networkType) (fun s x => { x with networkType := s }),
    .optional "userManagedNetworking" (·.userManagedNetworking)
      (fun b x => { x with userManagedNetworking := b }) .bool]

def Requirements.record : Record Value Requirements where
  name := "struct ProvisionRequirements"
  blank := ⟨0, 0⟩
  isRepeatable := false
  fields := [
    .always "controlPlaneAgents" (·.controlPlaneAgents)
      (fun n x => { x with controlPlaneAgents := n }) .uint32,
    .always "workerAgents" (·.workerAgents) (fun n x => { x with workerAgents := n }) .uint32]

def Spec.record : Record Value Spec where
  name := "struct AgentClusterInstallSpec"
  blank := .blank
  isRepeatable := false
  fields := [
    .optional "imageSetRef" (·.imageSetRef) (fun r x => { x with imageSetRef := r })
      (Reference.record "struct ClusterImageSetReference").codec,
    .always "clusterDeploymentRef" (·.clusterDeploymentRef)
      (fun r x => { x with clusterDeploymentRef := r })
      (Reference.record "struct LocalObjectReference").codec,
    .always "networking" (·.networking) (fun n x => { x with networking := n })
      Networking.record.codec,
    .text "sshPublicKey" (·.sshPublicKey) (fun s x => { x with sshPublicKey := s }),
    .always "provisionRequirements" (·.provisionRequirements)
      (fun r x => { x with provisionRequirements := r }) Requirements.record.codec,
    .optional "apiVIP" (·.apiVip) (fun s x => { x with apiVip := s }) .string,
    .optional "ingressVIP" (·.ingressVip) (fun s x => { x with ingressVip := s }) .string]

def record : Record Value Manifest where
  name := "struct AgentClusterInstall"
  blank := blank
  isRepeatable := false
  fields := [
    .text "apiVersion" (·.apiVersion) (fun s x => { x with apiVersion := s }),
    .text "kind" (·.kind) (fun s x => { x with kind := s }),
    .always "metadata" (·.metadata) (fun m x => { x with metadata := m }) ObjectMeta.record.codec,
    .always "spec" (·.spec) (fun s x => { x with spec := s }) Spec.record.codec,
    .optional "status" (·.status) (fun v x => { x with status := v }) .any]

/-- The manifest as a document. -/
def toValue (m : Manifest) : Value := record.toValue m

/-- The manifest that a document holds. Keys that no manifest has are ignored. -/
def ofValue (v : Value) : Except ReadError Manifest := record.read v

end Manifest
end InstallManifest
