import InstallManifest.Yaml.Error

/-!
The keys that a manifest may have, and the report on those it has besides. The contents of the
status and of the entries of the metadata are not checked, and neither is a value under a tag.
-/
namespace InstallManifest
open Yaml

/-- The keys that are allowed at a place of a document. -/
inductive Keys where
  /-- A mapping with the given keys. -/
  | fields (known : List (String × Keys))
  /-- A list of items of one shape. -/
  | items (inner : Keys)
  /-- Anything. -/
  | any

namespace Keys

/-- Keys whose values are not checked. -/
def flat (names : List String) : Keys := fields (names.map fun name => (name, any))

/-! ## The keys of manifests -/

def metadata : Keys := flat [
  "annotations", "creationTimestamp", "deletionGracePeriodSeconds", "deletionTimestamp",
  "finalizers", "generateName", "generation", "labels", "managedFields", "name", "namespace",
  "ownerReferences", "resourceVersion", "selfLink", "uid"]

def reference : Keys := flat ["name"]

def networking : Keys := fields [
  ("machineNetwork", items (flat ["cidr"])),
  ("clusterNetwork", items (flat ["cidr", "hostPrefix"])),
  ("serviceNetwork", items any),
  ("networkType", any),
  ("userManagedNetworking", any)]

def spec : Keys := fields [
  ("imageSetRef", reference),
  ("clusterDeploymentRef", reference),
  ("networking", networking),
  ("sshPublicKey", any),
  ("provisionRequirements", flat ["controlPlaneAgents", "workerAgents"]),
  ("apiVIP", any),
  ("ingressVIP", any)]

def manifest : Keys := fields [
  ("apiVersion", any),
  ("kind", any),
  ("metadata", metadata),
  ("spec", spec),
  ("status", any)]

/-! ## The report -/

/-- What is allowed under a key, if the key is. -/
def under? (known : List (String × Keys)) (key : Value) : Option Keys :=
  key.text?.bind fun name => List.lookup name known

/-- The step to the value of a key. -/
def step (key : Value) : Step :=
  match key.text? with
  | some name => .key name
  | none => .unnamed

mutual

/-- The places of the keys that are not allowed, in document order. Nothing is reported below such
a key. -/
def unknown (path : Path) : Value → Keys → List Path
  | .map entries, fields known => unknownOfEntries path entries known
  | .seq vs, items inner => unknownOfItems path 0 vs inner
  | _, _ => []

def unknownOfEntries (path : Path) :
    List (Value × Value) → List (String × Keys) → List Path
  | [], _ => []
  | (k, v) :: entries, known =>
    (match under? known k with
      | some keys => unknown (path ++ [step k]) v keys
      | none => [path ++ [step k]]) ++ unknownOfEntries path entries known

def unknownOfItems (path : Path) (index : Nat) : List Value → Keys → List Path
  | [], _ => []
  | v :: vs, inner =>
    unknown (path ++ [.item index]) v inner ++ unknownOfItems path (index + 1) vs inner

end

end Keys
end InstallManifest
