import InstallManifest.Config.Install
import InstallManifest.Config.NetworkType

/-!
Defaults for what an install configuration leaves open. A policy is any function on configurations;
the installer's own fills in what is missing and keeps everything that is set.
-/
namespace InstallManifest
open InstallConfig

/-- A way to complete a configuration. -/
abbrev DefaultsPolicy := InstallConfig → InstallConfig

namespace Defaults

def clusterRange : ClusterRange := ⟨"10.128.0.0/14", 23⟩

def serviceRange : String := "172.30.0.0/16"

def machineRange : MachineRange := ⟨"10.0.0.0/16"⟩

/-- The number of machines of a pool. -/
def replicas : UInt32 := 3

/-- The list, or one with a single default entry if it is empty. -/
def nonempty {α : Type} (default : α) (list : List α) : List α :=
  if list.isEmpty then [default] else list

/-- The pool, with a number of machines. -/
def pool (p : MachinePool) : MachinePool := { p with replicas := some (p.replicas.getD replicas) }

def networking (n : Networking) : Networking where
  networkType := if n.networkType = "" then NetworkType.ovnKubernetes else n.networkType
  clusterNetwork := nonempty clusterRange n.clusterNetwork
  serviceNetwork := nonempty serviceRange n.serviceNetwork
  machineNetwork := nonempty machineRange n.machineNetwork

/-- The installer's policy. -/
def installer : DefaultsPolicy := fun c =>
  { c with
    networking := some (networking (c.networking.getD .blank))
    controlPlane := some (pool (c.controlPlane.getD ⟨"master", some replicas⟩))
    compute := (nonempty ⟨"worker", some replicas⟩ c.compute).map pool }

end Defaults
end InstallManifest
