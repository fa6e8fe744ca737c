import InstallManifest.Config.ParseMode
import InstallManifest.Yaml.Record

/-!
Settings of the installer: what is not part of the install configuration, and has a default in each
case.
-/
namespace InstallManifest
open Yaml

structure Settings where
  /-- The release that is installed. -/
  releaseVersion : String
  /-- The namespace of clusters whose configuration names none. -/
  defaultNamespace : String
  parseMode : ParseMode
deriving DecidableEq, Repr

namespace Settings

def standard : Settings := ⟨"4.14.0", "cluster0", .strict⟩

/-- The name of the set of images of the release. -/
def imageSetName (s : Settings) : String := "openshift-" ++ s.releaseVersion

variable {σ : Type} [Source σ]

/-- A mode, as the name of a variant. -/
def mode : Codec σ ParseMode where
  write m := .string m.text
  read src := do
    let known := ParseMode.all.map ParseMode.text
    let name ← Source.variant known src
    return (ParseMode.ofText? name).getD .strict

def record : Record σ Settings where
  name := "struct ManifestConfig"
  blank := standard
  isRepeatable := false
  fields := [
    .always "releaseVersion" (·.releaseVersion) (fun s x => { x with releaseVersion := s }) .string,
    .always "defaultNamespace" (·.defaultNamespace)
      (fun s x => { x with defaultNamespace := s }) .string,
    .always "parseMode" (·.parseMode) (fun m x => { x with parseMode := m }) mode]

end Settings
end InstallManifest
