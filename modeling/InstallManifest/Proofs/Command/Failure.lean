import InstallManifest.Proofs.Asset.Loading
import InstallManifest.Proofs.Command.Creation

/-!
# Where a command fails

A command fails at one of several sites: a file cannot be read or written, a configuration is not
one, a manifest cannot be made or accepted, or it has no text (`Command.FailsBy`). There are no
others (`Command.result_eq_ok_iff`), and what is at fault settles the exit code.
-/
namespace InstallManifest

/-- What is at fault when a run fails. -/
inductive Fault where
  /-- A file cannot be read or written. -/
  | file
  /-- The settings or the install configuration cannot be parsed. -/
  | configuration
  /-- A manifest cannot be made of the install configuration, or the one that is there is not
  accepted. -/
  | manifest
  /-- The manifest that is there is accepted, and has no text. -/
  | text
deriving DecidableEq, Repr

namespace Command
variable {σ : Type} [AssetStore σ] {store : σ} {settings : Settings}

/-- **Where a command fails.** What is asked of the files is said in their own terms, and not in
those of the error that a command reports. -/
inductive FailsBy (store : σ) (settings : Settings) : Command → Fault → Prop
  | configNotRead {e : StoreError} (hfetch : AssetStore.fetch store configName = .error e) :
      FailsBy store settings .create .file
  | configNotParsed {f : File} {e : ConfigError}
      (hfetch : AssetStore.fetch store configName = .ok f)
      (hparse : InstallConfig.parse f.data = .error e) :
      FailsBy store settings .create .configuration
  | notInstallable {f : File} {c : InstallConfig}
      (hfetch : AssetStore.fetch store configName = .ok f)
      (hparse : InstallConfig.parse f.data = .ok c) (hc : ¬ c.IsInstallable) :
      FailsBy store settings .create .manifest
  | notWritten {f file : File} {c : InstallConfig} {e : StoreError}
      (hfetch : AssetStore.fetch store configName = .ok f)
      (hparse : InstallConfig.parse f.data = .ok c) (hc : c.IsInstallable)
      (hfile : file ∈ (generated c settings).asset.files)
      (hwrite : (AssetStore.write store file).2 = .error e) :
      FailsBy store settings .create .file
  | notLoaded {command : Command} {e : StoreError} (hcommand : command ≠ .create)
      (hfetch : AssetStore.fetch store Asset.fileName = .error e) (he : e.isNotFound = false) :
      FailsBy store settings command .file
  | missing {e : StoreError} (hfetch : AssetStore.fetch store Asset.fileName = .error e)
      (he : e.isNotFound) : FailsBy store settings .show .file
  | notDecoded {command : Command} {f : File} {e : DecodeError} (hcommand : command ≠ .create)
      (hfetch : AssetStore.fetch store Asset.fileName = .ok f)
      (hdecode : Manifest.decode settings.parseMode f.data = .error e) :
      FailsBy store settings command .manifest
  | notValid {command : Command} {f : File} {m : Manifest} (hcommand : command ≠ .create)
      (hfetch : AssetStore.fetch store Asset.fileName = .ok f)
      (hdecode : Manifest.decode settings.parseMode f.data = .ok m) (hproblems : m.problems ≠ []) :
      FailsBy store settings command .manifest
  | notEncoded {f : File} {m : Manifest} {e : Yaml.WriteError}
      (hfetch : AssetStore.fetch store Asset.fileName = .ok f)
      (hdecode : Manifest.decode settings.parseMode f.data = .ok m) (hproblems : m.problems = [])
      (htext : m.resolved.toValue.text = .error e) : FailsBy store settings .show .text

/-! ## Every failure has a fault -/

/-- A command that reads the manifest fails as loading it does. -/
theorem result_of_load_error {command : Command} {e : ManifestError} (hcommand : command ≠ .create)
    (hload : (Asset.empty.load store settings Defaults.installer).result = .error e) :
    (run command store settings).result = .error (.manifest e) := by
  cases command with
  | create => exact absurd rfl hcommand
  | validate => simp only [run, runValidate, report, hload]
  | «show» => simp only [run, runShow, report, hload]

/-- The error that a fault leads to, with its exit code. -/
theorem exists_error_of_failsBy {command : Command} {fault : Fault}
    (h : FailsBy store settings command fault) :
    ∃ e, (run command store settings).result = .error e ∧
      e.exitCode = if fault = .manifest then 1 else 2 := by
  cases h with
  | @configNotRead e hfetch =>
    have hread : readConfig store =
        .error (if e.isNotFound then .configMissing else .configNotRead e) := by
      simp only [readConfig, hfetch]
    refine ⟨if e.isNotFound then .configMissing else .configNotRead e, ?_, ?_⟩
    · simp only [run, runCreate, hread]
    · split <;> rfl
  | @configNotParsed _ e hfetch hparse =>
    have hread : readConfig store = .error (.configNotParsed e) := by
      simp only [readConfig, hfetch, hparse, Result.mapError_error]
    exact ⟨.configNotParsed e, by simp only [run, runCreate, hread], rfl⟩
  | notInstallable hfetch hparse hc =>
    obtain ⟨e, he, hrun⟩ | ⟨hc', -⟩ := create_cases (readConfig_of_parse hfetch hparse) settings
    · refine ⟨_, by rw [hrun], ?_⟩
      cases he <;> rfl
    · exact absurd hc' hc
  | notWritten hfetch hparse hc hfile hwrite =>
    obtain ⟨hresult, hfiles, -, hcauses⟩ := result_create hfetch hparse settings
    cases hrun : (run .create store settings).result with
    | ok _ =>
      have hwritten := (hresult.1 hrun).2 _ hfile
      rw [hwrite] at hwritten
      cases hwritten
    | error e =>
      obtain ⟨cause, rfl, hcause⟩ | ⟨cause, rfl⟩ := hcauses e hrun
      · exact absurd hc hcause.not_isInstallable
      · exact ⟨_, rfl, rfl⟩
  | notLoaded hcommand hfetch he =>
    exact ⟨_, result_of_load_error hcommand (by rw [Asset.load_of_fetch_error hfetch he]), rfl⟩
  | missing hfetch he =>
    refine ⟨.manifestMissing, ?_, rfl⟩
    simp only [run, runShow, report, Asset.load_of_notFound hfetch he]
  | notDecoded hcommand hfetch hdecode =>
    exact ⟨_, result_of_load_error hcommand (by rw [Asset.load_of_decode_error hfetch hdecode]),
      rfl⟩
  | notValid hcommand hfetch hdecode hproblems =>
    obtain ⟨notices, aggregate, hload, -⟩ :=
      Asset.exists_load_of_problems (a := .empty) hfetch hdecode hproblems
    exact ⟨_, result_of_load_error hcommand (by rw [hload]), rfl⟩
  | @notEncoded _ _ e hfetch hdecode hproblems htext =>
    obtain ⟨notices, hload⟩ := Asset.exists_load_of_valid (a := .empty) hfetch hdecode hproblems
    refine ⟨.notEncoded e, ?_, rfl⟩
    simp only [run, runShow, report, hload, htext, Result.mapError_error]

/-- A command that nothing is at fault with succeeds. -/
theorem result_of_not_failsBy {command : Command}
    (h : ∀ fault, ¬ FailsBy store settings command fault) :
    (run command store settings).result = .ok () := by
  by_cases hcommand : command = .create
  · subst hcommand
    cases hfetch : AssetStore.fetch store configName with
    | error e => exact absurd (.configNotRead hfetch) (h .file)
    | ok f =>
      cases hparse : InstallConfig.parse f.data with
      | error e => exact absurd (.configNotParsed hfetch hparse) (h .configuration)
      | ok c =>
        have hc : c.IsInstallable :=
          by_contra fun hc => h .manifest (.notInstallable hfetch hparse hc)
        refine (result_create hfetch hparse settings).1.2 ⟨hc, fun file hfile => ?_⟩
        cases hwrite : (AssetStore.write store file).2 with
        | error e => exact absurd (.notWritten hfetch hparse hc hfile hwrite) (h .file)
        | ok _ => rfl
  · cases hfetch : AssetStore.fetch store Asset.fileName with
    | error e =>
      cases he : e.isNotFound with
      | false => exact absurd (.notLoaded hcommand hfetch he) (h .file)
      | true =>
        cases command with
        | create => exact absurd rfl hcommand
        | validate =>
          simp only [run, runValidate, report, Asset.load_of_notFound hfetch he]
        | «show» => exact absurd (.missing hfetch he) (h .file)
    | ok f =>
      cases hdecode : Manifest.decode settings.parseMode f.data with
      | error e => exact absurd (.notDecoded hcommand hfetch hdecode) (h .manifest)
      | ok m =>
        have hproblems : m.problems = [] :=
          by_contra fun hm => h .manifest (.notValid hcommand hfetch hdecode hm)
        obtain ⟨notices, hload⟩ := Asset.exists_load_of_valid (a := .empty) hfetch hdecode hproblems
        cases command with
        | create => exact absurd rfl hcommand
        | validate => simp only [run, runValidate, report, hload]
        | «show» =>
          cases htext : m.resolved.toValue.text with
          | error e => exact absurd (.notEncoded hfetch hdecode hproblems htext) (h .text)
          | ok text => simp only [run, runShow, report, hload, htext, Result.mapError_ok]

/-- **A command succeeds exactly if nothing is at fault.** -/
theorem result_eq_ok_iff {command : Command} : (run command store settings).result = .ok () ↔
    ∀ fault, ¬ FailsBy store settings command fault := by
  refine ⟨fun hrun fault hfault => ?_, result_of_not_failsBy⟩
  obtain ⟨e, he, -⟩ := exists_error_of_failsBy hfault
  rw [hrun] at he
  cases he

end Command
end InstallManifest
