/-!
Virtual IP addresses of a cluster. Load balancing takes a pair of them, so a pair with a missing or
empty side counts as none.
-/
namespace InstallManifest

/-- The addresses of the API and of the ingress, as far as they are known. -/
structure Vips where
  api : Option String
  ingress : Option String
deriving DecidableEq, Repr

namespace Vips

def unset : Vips := ⟨none, none⟩

/-- Both addresses, if neither is missing or empty. -/
def both (v : Vips) : Option (String × String) :=
  match v.api, v.ingress with
  | some a, some i => if a = "" ∨ i = "" then none else some (a, i)
  | _, _ => none

end Vips
end InstallManifest
