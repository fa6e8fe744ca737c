import InstallManifest.Config.Ranges
import InstallManifest.Config.Vips

/-!
The install configuration: what the user says about the cluster. Every part may be missing. Ranges
are kept as text; they are parsed when a manifest is built.
-/
namespace InstallManifest
open Yaml

namespace InstallConfig

/-- The identity of the cluster. -/
structure Metadata where
  name : String
  namespaceName : Option String
deriving DecidableEq, Repr

/-- Machines that share a role. -/
structure MachinePool where
  name : String
  replicas : Option UInt32
deriving DecidableEq, Repr

structure Networking where
  /-- The network plugin; empty if it is not set. -/
  networkType : String
  clusterNetwork : List ClusterRange
  serviceNetwork : List String
  machineNetwork : List MachineRange
deriving DecidableEq, Repr

/-- A platform that balances load over virtual addresses. The fields for a single address are
deprecated. -/
structure VipPlatform where
  apiVips : List String
  ingressVips : List String
  apiVip : Option String
  ingressVip : Option String
deriving DecidableEq, Repr

/-- The platform that the cluster runs on. -/
structure Platform where
  baremetal : Option VipPlatform
  vsphere : Option VipPlatform
  /-- Whether the section for no platform is there. -/
  isNone : Bool
deriving DecidableEq, Repr

end InstallConfig

open InstallConfig in
structure InstallConfig where
  apiVersion : String
  metadata : Metadata
  baseDomain : String
  controlPlane : Option MachinePool
  compute : List MachinePool
  networking : Option Networking
  platform : Platform
  pullSecret : String
  sshKey : String
deriving DecidableEq, Repr

namespace InstallConfig

/-! ## Blank parts -/

def Metadata.blank : Metadata := ⟨"", none⟩

def MachinePool.blank : MachinePool := ⟨"", none⟩

def Networking.blank : Networking := ⟨"", [], [], []⟩

def VipPlatform.blank : VipPlatform := ⟨[], [], none, none⟩

def Platform.blank : Platform := ⟨none, none, false⟩

def blank : InstallConfig := ⟨"", .blank, "", none, [], none, .blank, "", ""⟩

/-! ## Views -/

/-- The network type, if it is set. -/
def networkType? (c : InstallConfig) : Option String :=
  (c.networking.map (·.networkType)).filter (· ≠ "")

/-- The machines of the control plane, if there is a pool for it that says so. -/
def controlPlaneReplicas? (c : InstallConfig) : Option UInt32 := c.controlPlane.bind (·.replicas)

/-- The first entry of a list that is not empty, or else the fallback, unless that is empty too. -/
def firstNonempty (list : List String) (fallback : Option String) : Option String :=
  list.find? (· ≠ "") <|> fallback.filter (· ≠ "")

def VipPlatform.vips (p : VipPlatform) : Vips :=
  ⟨firstNonempty p.apiVips p.apiVip, firstNonempty p.ingressVips p.ingressVip⟩

/-- The name of the platform. Bare metal takes precedence over vSphere. -/
def Platform.name (p : Platform) : String :=
  if p.baremetal.isSome then "baremetal" else if p.vsphere.isSome then "vsphere" else "none"

/-- The addresses of the platform. A section that is there is used even if it has none. -/
def Platform.vips (p : Platform) : Vips :=
  match p.baremetal <|> p.vsphere with
  | some q => q.vips
  | none => .unset

/-! ## As documents -/

variable {σ : Type} [Source σ]

def Metadata.record : Record σ Metadata where
  name := "struct InstallConfigMetadata"
  blank := .blank
  isRepeatable := false
  fields := [
    .always "name" (·.name) (fun s x => { x with name := s }) .string,
    .optional "namespace" (·.namespaceName) (fun s x => { x with namespaceName := s }) .string]

def MachinePool.record : Record σ MachinePool where
  name := "struct MachinePool"
  blank := .blank
  isRepeatable := false
  fields := [
    .always "name" (·.name) (fun s x => { x with name := s }) .string,
    .optional "replicas" (·.replicas) (fun n x => { x with replicas := n }) .uint32]

def Networking.record : Record σ Networking where
  name := "struct Networking"
  blank := .blank
  isRepeatable := false
  fields := [
    .text "networkType" (·.networkType) (fun s x => { x with networkType := s }),
    .list "clusterNetwork" (·.clusterNetwork) (fun l x => { x with clusterNetwork := l })
      (ClusterRange.record true).codec,
    .list "serviceNetwork" (·.serviceNetwork) (fun l x => { x with serviceNetwork := l }) .string,
    .list "machineNetwork" (·.machineNetwork) (fun l x => { x with machineNetwork := l })
      (MachineRange.record true).codec]

def VipPlatform.record : Record σ VipPlatform where
  name := "struct VipPlatform"
  blank := .blank
  isRepeatable := false
  fields := [
    .list "apiVIPs" (·.apiVips) (fun l x => { x with apiVips := l }) .string,
    .list "ingressVIPs" (·.ingressVips) (fun l x => { x with ingressVips := l }) .string,
    .optional "apiVIP" (·.apiVip) (fun s x => { x with apiVip := s }) .string,
    .optional "ingressVIP" (·.ingressVip) (fun s x => { x with ingressVip := s }) .string]

/-- The section for no platform has no keys of its own. -/
def noPlatformRecord : Record σ Unit := ⟨"struct NonePlatform", (), [], false⟩

def Platform.record : Record σ Platform where
  name := "struct Platform"
  blank := .blank
  isRepeatable := false
  fields := [
    .optional "baremetal" (·.baremetal) (fun p x => { x with baremetal := p })
      VipPlatform.record.codec,
    .optional "vsphere" (·.vsphere) (fun p x => { x with vsphere := p }) VipPlatform.record.codec,
    .optional "none" (fun x => if x.isNone then some () else none)
      (fun p x => { x with isNone := p.isSome }) noPlatformRecord.codec]

def record : Record σ InstallConfig where
  name := "struct InstallConfig"
  blank := blank
  isRepeatable := false
  fields := [
    .text "apiVersion" (·.apiVersion) (fun s x => { x with apiVersion := s }),
    .always "metadata" (·.metadata) (fun m x => { x with metadata := m }) Metadata.record.codec,
    .text "baseDomain" (·.baseDomain) (fun s x => { x with baseDomain := s }),
    .optional "controlPlane" (·.controlPlane) (fun p x => { x with controlPlane := p })
      MachinePool.record.codec,
    .list "compute" (·.compute) (fun l x => { x with compute := l }) MachinePool.record.codec,
    .optional "networking" (·.networking) (fun n x => { x with networking := n })
      Networking.record.codec,
    .always "platform" (·.platform) (fun p x => { x with platform := p }) Platform.record.codec,
    .text "pullSecret" (·.pullSecret) (fun s x => { x with pullSecret := s }),
    .text "sshKey" (·.sshKey) (fun s x => { x with sshKey := s })]

/-- The configuration as a document. -/
def toValue (c : InstallConfig) : Value := (record (σ := Value)).toValue c

end InstallConfig
end InstallManifest
