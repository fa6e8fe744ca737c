import InstallManifest.Config.NetworkType
import InstallManifest.Manifest.Basic
import InstallManifest.Manifest.Field
import InstallManifest.Net.Cidr

/-!
Checks of a manifest's ranges against its network type. Only the legacy plugin restricts them: its
ranges have to be readable and must not be of IPv6.
-/
namespace InstallManifest
open Net

namespace Validation

/-- The errors of one list of ranges: one for each text that is not a range, and one at the network
type if there is a range of IPv6. -/
def rangeErrors (field : FieldPath) (label : String) (ranges : List String) : ErrorList :=
  let families := ranges.map Cidr.classify
  let malformed := families.filterMap fun
    | .ok _ => none
    | .error _ => some ⟨.required, field, "error parsing the " ++ label ++ " CIDR"⟩
  let hasIPv6 := families.any fun
    | .ok family => family.isIPv6
    | .error _ => false
  malformed ++
    if hasIPv6 then
      [⟨.required, .networkType, label ++ " CIDR is IPv6 and is not compatible with networkType " ++
        NetworkType.openShiftSDN⟩]
    else []

end Validation

open Validation in
/-- Every problem of a manifest. -/
def Manifest.problems (m : Manifest) : ErrorList :=
  let networking := m.spec.networking
  if networking.networkType = NetworkType.openShiftSDN then
    rangeErrors .clusterNetwork "clusterNetwork" (networking.clusterNetwork.map (·.cidr)) ++
      rangeErrors .serviceNetwork "serviceNetwork" networking.serviceNetwork
  else []

end InstallManifest
