import InstallManifest.Config.Settings
import InstallManifest.Manifest.Resolution

/-!
The manifest of an install configuration. Ranges are parsed and written in their one form; ranges
for pods have to be subnets. The first problem, in the order of the fields below, is the result.
-/
namespace InstallManifest
open Net InstallConfig

namespace Manifest.Build

/-- The characters that a pasted key may be wrapped in. -/
def isKeyMargin (c : Char) : Bool := c == '|' || c == '\n' || c == '\t'

/-- A key without what it is wrapped in. -/
def trimSshKey (key : String) : String :=
  String.ofList ((key.toList.dropWhile isKeyMargin).reverse.dropWhile isKeyMargin).reverse

def controlPlaneAgents (c : InstallConfig) : Except ManifestError UInt32 :=
  match c.controlPlaneReplicas? with
  | some n => .ok n
  | none =>
    let name := (c.controlPlane.map (·.name)).getD ""
    .error (.missingReplicas (if name = "" then "controlPlane" else name))

/-- A sum that stays at the greatest number when it is reached. -/
def addSaturating (m n : UInt32) : UInt32 :=
  UInt32.ofNat (min (m.toNat + n.toNat) (Width.count 32 - 1))

/-- The machines of all pools, on top of those counted so far. -/
def workerAgents (total : UInt32) : List MachinePool → Except ManifestError UInt32
  | [] => .ok total
  | p :: pools =>
    match p.replicas with
    | some n => workerAgents (addSaturating total n) pools
    | none => .error (.missingReplicas p.name)

def metadata (c : InstallConfig) (settings : Settings) : ObjectMeta :=
  let given := c.metadata.namespaceName.filter (· ≠ "")
  { ObjectMeta.blank with
    name := some c.metadata.name
    namespaceName := some (given.getD settings.defaultNamespace) }

/-- The one form of the text of a range of a list. -/
def canonicalRange (list : RangeList) (text : String) : Except ManifestError String :=
  match if list = .cluster then Cidr.parseSubnet text else Cidr.parse text with
  | .ok range => .ok range.text
  | .error e => .error (.invalidRange list text e)

/-- The networking part, without a network type. -/
def networking (n : InstallConfig.Networking) : Except ManifestError Networking := do
  let clusterNetwork ← n.clusterNetwork.mapM fun r => do
    return { r with cidr := ← canonicalRange .cluster r.cidr }
  let serviceNetwork ← n.serviceNetwork.mapM (canonicalRange .service)
  let machineNetwork ← n.machineNetwork.mapM fun r => do
    return { r with cidr := ← canonicalRange .machine r.cidr }
  return { Networking.blank with clusterNetwork, serviceNetwork, machineNetwork }

/-- The manifest before its network type is resolved and its addresses are set. -/
def draft (c : InstallConfig) (settings : Settings) : Except ManifestError Manifest := do
  let controlPlaneAgents ← controlPlaneAgents c
  let workerAgents ← workerAgents 0 c.compute
  let networking ← networking (c.networking.getD .blank)
  return {
    apiVersion := groupVersion
    kind := objectKind
    metadata := metadata c settings
    spec := {
      imageSetRef := some ⟨settings.imageSetName⟩
      clusterDeploymentRef := ⟨c.metadata.name⟩
      networking
      sshPublicKey := trimSshKey c.sshKey
      provisionRequirements := ⟨controlPlaneAgents, workerAgents⟩
      apiVip := none
      ingressVip := none }
    status := none }

/-- The manifest with the addresses of a load balancer. A single node has none. -/
def withVips (m : Manifest) (vips : Vips) : Manifest :=
  if 1 < m.spec.provisionRequirements.controlPlaneAgents then
    match vips.both with
    | some (api, ingress) =>
      { m with spec := { m.spec with apiVip := some api, ingressVip := some ingress } }
    | none => m
  else m

end Manifest.Build

open Manifest.Build in
/-- The manifest of a configuration, and where its network type comes from. -/
def Manifest.build (c : InstallConfig) (settings : Settings) (policy : DefaultsPolicy) :
    Except ManifestError Resolution := do
  let m ← draft c settings
  let r ← m.resolve (some c) policy
  return { r with manifest := withVips r.manifest c.platform.vips }

end InstallManifest
