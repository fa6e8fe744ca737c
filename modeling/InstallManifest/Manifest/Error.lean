import InstallManifest.Manifest.Field
import InstallManifest.Net.Cidr
import InstallManifest.Store.Basic
import InstallManifest.Yaml.Error
import InstallManifest.Yaml.Printer

/-!
Why a manifest cannot be built, written, read or accepted.
-/
namespace InstallManifest
open Net Yaml

/-- Why a document is not a manifest. -/
inductive DecodeError where
  /-- There is no document, or it is null. -/
  | empty
  | unreadable (error : ReadError)
  /-- There are keys that no manifest has, at the given places. -/
  | unknownKeys (paths : List Path)

namespace DecodeError

def message : DecodeError → String
  | empty => "document is empty"
  | unreadable error => error.message
  | unknownKeys paths => "unknown fields: " ++ String.intercalate ", " (paths.map Path.text)

/-- The error and what it was caused by, as texts. -/
def causes (e : DecodeError) : List String :=
  match e with
  | unreadable error => [e.message, error.message]
  | _ => [e.message]

end DecodeError

/-- The lists of ranges that a configuration has. -/
inductive RangeList where
  | cluster
  | service
  | machine
deriving DecidableEq, Repr

/-- What is done with a range of a list, for messages. -/
def RangeList.activity : RangeList → String
  | cluster => "validate ClusterNetwork CIDR"
  | service => "parse ServiceNetwork CIDR"
  | machine => "parse MachineNetwork CIDR"

inductive ManifestError where
  /-- A pool of machines does not say how many there are. -/
  | missingReplicas (pool : String)
  | invalidRange (list : RangeList) (range : String) (error : CidrError)
  /-- Neither the manifest, nor the configuration, nor the policy has a network type. -/
  | unresolvedNetworkType
  | unwritable (error : WriteError)
  | notLoaded (file : String) (error : StoreError)
  | notDecoded (file : String) (error : DecodeError)
  /-- There is neither a configuration nor a manifest. -/
  | missingConfiguration
  | invalidNetworkType (problems : AggregateError)

namespace ManifestError

/-- Whether the cause is what the user wrote, and not reading or writing as such. -/
def isConfigError : ManifestError → Bool
  | notLoaded _ _ => false
  | unwritable _ => false
  | _ => true

def message : ManifestError → String
  | missingReplicas pool => "machine pool " ++ pool ++ " has no replica count"
  | invalidRange list range error =>
    "failed to " ++ list.activity ++ " " ++ range ++ ": " ++ error.message
  | unresolvedNetworkType => "default policy did not provide a NetworkType"
  | unwritable error => "failed to marshal agent installer AgentClusterInstall: " ++ error.message
  | notLoaded file error => "failed to load " ++ file ++ " file: " ++ error.message
  | notDecoded file error => "failed to unmarshal " ++ file ++ ": " ++ error.message
  | missingConfiguration => "missing configuration or manifest file"
  | invalidNetworkType problems => "invalid NetworkType configured: " ++ problems.text

/-- The error and what it was caused by, as texts. -/
def causes (e : ManifestError) : List String :=
  e.message ::
    match e with
    | invalidRange _ _ error => [error.message]
    | unwritable error => [error.message]
    | notLoaded _ error => error.causes
    | notDecoded _ error => error.causes
    | invalidNetworkType problems => [problems.text]
    | _ => []

end ManifestError
end InstallManifest
