import InstallManifest.Config.Defaults
import InstallManifest.Manifest.Basic
import InstallManifest.Manifest.Error

/-!
The network type of a manifest: its own, else that of the install configuration, else the one that
a defaults policy gives to the configuration. The last case is announced.
-/
namespace InstallManifest

/-- Where a network type comes from. -/
inductive NetworkTypeSource where
  | alreadySet
  | installConfig
  | defaulted
deriving DecidableEq, Repr

/-- A manifest with a network type. -/
structure Resolution where
  manifest : Manifest
  source : NetworkTypeSource

namespace Resolution

/-- What is announced when a manifest is built from a configuration. -/
def buildWarning : String := "NetworkType is not specified in InstallConfig."

/-- What is announced when a manifest is loaded. -/
def loadWarning : String := "NetworkType is not specified in AgentClusterInstall."

def notice (warning networkType : String) : String :=
  warning ++ " Defaulting NetworkType to " ++ networkType ++ "."

/-- The announcements that go with a resolution. -/
def notices (warning : String) (r : Resolution) : List String :=
  match r.source with
  | .defaulted => [notice warning r.manifest.networkType]
  | _ => []

end Resolution

/-- Give a manifest a network type. Only the type of what the policy returns is used. -/
def Manifest.resolve (m : Manifest) (config : Option InstallConfig) (policy : DefaultsPolicy) :
    Except ManifestError Resolution :=
  if m.networkType ≠ "" then .ok ⟨m, .alreadySet⟩
  else
    match config.bind (·.networkType?) with
    | some t => .ok ⟨m.withNetworkType t, .installConfig⟩
    | none =>
      match (policy (config.getD .blank)).networkType? with
      | some t => .ok ⟨m.withNetworkType t, .defaulted⟩
      | none => .error .unresolvedNetworkType

end InstallManifest
