/-!
The network types that have a meaning to the installer. Any other text is a network type too.
-/
namespace InstallManifest.NetworkType

/-- The legacy plugin, which knows one address family only and not IPv6. -/
def openShiftSDN : String := "OpenShiftSDN"

/-- The plugin that is used if none is chosen. -/
def ovnKubernetes : String := "OVNKubernetes"

end InstallManifest.NetworkType
