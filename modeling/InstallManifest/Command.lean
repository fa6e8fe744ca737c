import InstallManifest.Asset
import InstallManifest.Config.Reading

/-!
The commands. Each one works on any store and reports what it prints. Creating completes the install
configuration with the installer's defaults; the other commands read the manifest that is there.
-/
namespace InstallManifest
open Yaml

inductive Command where
  /-- Generate the manifest of the install configuration and write it. -/
  | create
  /-- Load the manifest and say whether it is valid. -/
  | validate
  /-- Load the manifest and print it, with its network type. -/
  | show
deriving DecidableEq, Repr

/-- Why a command failed. -/
inductive CommandError where
  | configMissing
  | configNotRead (error : StoreError)
  | configNotParsed (error : ConfigError)
  | manifestMissing
  | manifest (error : ManifestError)
  | notWritten (file : String) (error : StoreError)
  | notEncoded (error : WriteError)
  | settingsNotRead (path : String) (failure : IOFailure)
  | settingsNotParsed (path : String) (error : ReadError)

namespace Command

def all : List Command := [create, validate, .show]

def text : Command → String
  | create => "create"
  | validate => "validate"
  | .show => "show"

/-- The command with a given name. -/
def ofText? (s : String) : Option Command := all.find? fun c => c.text = s

/-- The name of the install configuration in a store. -/
def configName : String := "install-config.yaml"

end Command

namespace CommandError

/-- The error and what it was caused by, as texts. -/
def causes : CommandError → List String
  | configMissing => [Command.configName ++ " not found in the asset directory"]
  | configNotRead error => ("failed to read " ++ Command.configName) :: error.causes
  | configNotParsed error => ("failed to parse " ++ Command.configName) :: error.causes
  | manifestMissing => ["no " ++ Asset.name ++ " found"]
  | manifest error => error.causes
  | notWritten file error => ("failed to write " ++ file) :: error.causes
  | notEncoded error => ["failed to encode AgentClusterInstall", error.message]
  | settingsNotRead path failure => ["failed to read config file " ++ path, failure.message]
  | settingsNotParsed path error => ["failed to parse config file " ++ path, error.message]

def message (e : CommandError) : String := String.intercalate ": " e.causes

/-- The exit code of a failure: 1 if a manifest cannot be made of what the user wrote. -/
def exitCode : CommandError → Nat
  | manifest error => if error.isConfigError then 1 else 2
  | _ => 2

end CommandError

namespace Command

/-- What a command does: the store after it, what it prints and announces, and whether it
succeeded. -/
structure Report (σ : Type) where
  store : σ
  output : String
  notices : List String
  result : Except CommandError Unit

variable {σ : Type} [AssetStore σ]

/-- The install configuration of a store. -/
def readConfig (store : σ) : Except CommandError InstallConfig :=
  match AssetStore.fetch store configName with
  | .error e => .error (if e.isNotFound then .configMissing else .configNotRead e)
  | .ok f => (InstallConfig.parse f.data).mapError .configNotParsed

/-- Write files one after the other, up to the first that cannot be written. -/
def writeFiles (store : σ) (output : String) : List File → σ × String × Except CommandError Unit
  | [] => (store, output, .ok ())
  | f :: files =>
    match AssetStore.write store f with
    | (store, .error e) => (store, output, .error (.notWritten f.name e))
    | (store, .ok _) => writeFiles store (output ++ "Created " ++ f.name ++ "\n") files

def runCreate (store : σ) (settings : Settings) : Report σ :=
  match readConfig store with
  | .error e => ⟨store, "", [], .error e⟩
  | .ok c =>
    let generated := Asset.empty.generate (some (Defaults.installer c)) settings Defaults.installer
    match generated.result with
    | .error e => ⟨store, "", generated.notices, .error (.manifest e)⟩
    | .ok _ =>
      let (store, output, result) := writeFiles store "" generated.asset.files
      ⟨store, output, generated.notices, result⟩

/-- Report on the manifest of a store, given what to say if there is none, and of one that there
is. -/
def report (store : σ) (settings : Settings) (missing : Except CommandError String)
    (text : Manifest → Except CommandError String) : Report σ :=
  let loaded := Asset.empty.load store settings Defaults.installer
  let output : Except CommandError String :=
    match loaded.result, loaded.asset.manifest with
    | .error e, _ => .error (.manifest e)
    | .ok true, some m => text m
    | .ok _, _ => missing
  match output with
  | .error e => ⟨store, "", loaded.notices, .error e⟩
  | .ok output => ⟨store, output, loaded.notices, .ok ()⟩

/-- What is said of a valid manifest. -/
def verdict (m : Manifest) : String :=
  Asset.name ++ " " ++ m.name ++ " is valid (networkType: " ++ m.networkType ++ ")\n"

def runValidate (store : σ) (settings : Settings) : Report σ :=
  report store settings (.ok ("No " ++ Asset.name ++ " found, nothing to validate\n")) fun m =>
    .ok (verdict m)

def runShow (store : σ) (settings : Settings) : Report σ :=
  report store settings (.error .manifestMissing) fun m => m.toValue.text.mapError .notEncoded

def run (command : Command) (store : σ) (settings : Settings) : Report σ :=
  match command with
  | .create => runCreate store settings
  | .validate => runValidate store settings
  | .show => runShow store settings

end Command
end InstallManifest
