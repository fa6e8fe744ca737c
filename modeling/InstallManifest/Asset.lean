import InstallManifest.Manifest.Build
import InstallManifest.Manifest.Codec
import InstallManifest.Manifest.Validation

/-!
The manifest as an asset: what has been generated or loaded, together with its file. A manifest is
adopted only if it is valid; a call that fails, or finds nothing to load, leaves the asset as it
was.
-/
namespace InstallManifest

/-- A manifest that has been adopted, and the file that holds it. -/
structure Asset where
  manifest : Option Manifest
  file : Option File

namespace Asset

def name : String := "AgentClusterInstall Config"

/-- The directory of manifests in a store. -/
def directory : String := "cluster-manifests"

/-- The name of the manifest's file in a store. -/
def fileName : String := directory ++ "/agent-cluster-install.yaml"

/-- The asset that holds nothing. -/
def empty : Asset := ⟨none, none⟩

/-- The files to keep. -/
def files (a : Asset) : List File := a.file.toList

/-- Accept a manifest that is there and valid. -/
def check : Option Manifest → Except ManifestError Unit
  | none => .error .missingConfiguration
  | some m => m.problems.toResult.mapError .invalidNetworkType

/-- Accept an asset that holds a valid manifest. -/
def finish (a : Asset) : Except ManifestError Unit := check a.manifest

/-- What a call does: the asset after it, what is announced, and the answer. -/
structure Outcome (α : Type) where
  asset : Asset
  notices : List String
  result : Except ManifestError α

/-- A manifest of which the network type is resolved, as an asset, if it is valid. -/
def ofResolution (r : Resolution) (file : Except ManifestError File) :
    Except ManifestError Asset := do
  let f ← file
  check (some r.manifest)
  return ⟨some r.manifest, some f⟩

/-- The file of a manifest. -/
def fileOf (m : Manifest) : Except ManifestError File :=
  match m.encode with
  | .ok data => .ok ⟨fileName, data⟩
  | .error e => .error (.unwritable e)

/-- Take over the asset of a resolution, or keep the old one. -/
def adopt {α : Type} (a : Asset) (warning : String) (answer : α)
    (resolution : Except ManifestError Resolution)
    (file : Resolution → Except ManifestError File) : Outcome α :=
  match resolution with
  | .error e => ⟨a, [], .error e⟩
  | .ok r =>
    let notices := r.notices warning
    match ofResolution r (file r) with
    | .error e => ⟨a, notices, .error e⟩
    | .ok a' => ⟨a', notices, .ok answer⟩

/-- Generate the manifest of a configuration. Without one, the asset has to be valid as it is. -/
def generate (a : Asset) (config : Option InstallConfig) (settings : Settings)
    (policy : DefaultsPolicy) : Outcome Unit :=
  match config with
  | none => ⟨a, [], a.finish⟩
  | some c =>
    a.adopt Resolution.buildWarning () (Manifest.build c settings policy) fun r =>
      fileOf r.manifest

/-- The manifest of a file, with its network type. -/
def resolveFile (f : File) (mode : ParseMode) (policy : DefaultsPolicy) :
    Except ManifestError Resolution := do
  let m ← (Manifest.decode mode f.data).mapError (.notDecoded fileName)
  m.resolve (some .blank) policy

/-- Load the manifest from a store. The answer is whether there is one. -/
def load {σ : Type} [AssetStore σ] (a : Asset) (store : σ) (settings : Settings)
    (policy : DefaultsPolicy) : Outcome Bool :=
  match AssetStore.fetch store fileName with
  | .error e =>
    ⟨a, [], if e.isNotFound then .ok false else .error (.notLoaded fileName e)⟩
  | .ok f =>
    a.adopt Resolution.loadWarning true (resolveFile f settings.parseMode policy) fun _ => .ok f

end Asset
end InstallManifest
