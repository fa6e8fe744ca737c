import InstallManifest.Config.Install
import InstallManifest.Config.Settings
import InstallManifest.Yaml.Bytes

/-!
Install configurations and settings as they are read from files. A cluster has to have a name;
settings may be missing altogether.
-/
namespace InstallManifest
open Yaml

/-- Why bytes are not an install configuration. -/
inductive ConfigError where
  | unreadable (error : ReadError)
  | missingField (name : String)

namespace ConfigError

def message : ConfigError → String
  | unreadable error => "failed to parse install config: " ++ error.message
  | missingField name => "install config is missing required field " ++ name

/-- The error and what it was caused by, as texts. -/
def causes (e : ConfigError) : List String :=
  match e with
  | unreadable error => [e.message, error.message]
  | missingField _ => [e.message]

end ConfigError

/-- The configuration that bytes hold. -/
def InstallConfig.parse (bytes : ByteArray) : Except ConfigError InstallConfig :=
  match InstallConfig.record.ofBytes bytes with
  | .ok c => if c.metadata.name = "" then .error (.missingField "metadata.name") else .ok c
  | .error e => .error (.unreadable e)

/-- The settings that bytes hold; standard ones, if there is nothing. -/
def Settings.parse (bytes : ByteArray) : Except ReadError Settings :=
  if isBlankBytes bytes then .ok .standard else Settings.record.ofBytes bytes

end InstallManifest
