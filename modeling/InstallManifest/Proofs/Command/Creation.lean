import InstallManifest.Command
import InstallManifest.Proofs.Asset.Generation
import InstallManifest.Proofs.Store.Laws

/-!
# When a manifest is created

Creating completes the configuration before anything is made of it, so nothing that is left out can
be missed. What remains is what the user did write: the ranges, and the plugin that is asked to
serve them (`Command.result_create`).
-/
namespace InstallManifest.Command
variable {σ : Type} [AssetStore σ] {store : σ} {c : InstallConfig} {settings : Settings}

/-- What is generated of a configuration when it is completed with the installer's defaults. -/
def generated (c : InstallConfig) (settings : Settings) : Asset.Outcome Unit :=
  Asset.empty.generate (some (Defaults.installer c)) settings Defaults.installer

theorem generated_cases (c : InstallConfig) (settings : Settings) :
    (∃ e, c.Refuses e ∧ generated c settings = ⟨.empty, [], .error e⟩) ∨
    (c.IsInstallable ∧ ∃ m data,
      generated c settings = ⟨⟨some m, some ⟨Asset.fileName, data⟩⟩, [], .ok ()⟩) := by
  obtain ⟨e, he, h⟩ | ⟨hc, h⟩ := Asset.empty.generate_of_isComplete
    (Defaults.isComplete_installer c) settings Defaults.installer
  · exact .inl ⟨e, Defaults.refuses_of_installer he, h⟩
  · exact .inr ⟨(Defaults.isInstallable_installer c).1 hc, h⟩

theorem readConfig_of_parse {f : File} (hfetch : AssetStore.fetch store configName = .ok f)
    (hparse : InstallConfig.parse f.data = .ok c) : readConfig store = .ok c := by
  simp only [readConfig, hfetch, hparse, Result.mapError_ok]

theorem exists_of_readConfig (h : readConfig store = .ok c) :
    ∃ f, AssetStore.fetch store configName = .ok f ∧ InstallConfig.parse f.data = .ok c := by
  unfold readConfig at h
  split at h
  next => cases h
  next f hfetch => exact ⟨f, hfetch, Result.mapError_eq_ok.1 h⟩

/-- What has been generated is written, and that is reported. -/
theorem create_of_generated {m : Manifest} {data : ByteArray} (hread : readConfig store = .ok c)
    (hgenerated : generated c settings = ⟨⟨some m, some ⟨Asset.fileName, data⟩⟩, [], .ok ()⟩) :
    run .create store settings =
      match AssetStore.write store ⟨Asset.fileName, data⟩ with
      | (store', .error e) => ⟨store', "", [], .error (.notWritten Asset.fileName e)⟩
      | (store', .ok _) => ⟨store', "Created " ++ Asset.fileName ++ "\n", [], .ok ()⟩ := by
  rw [generated] at hgenerated
  simp only [run, runCreate, hread, hgenerated, Asset.files, Option.toList, writeFiles]
  obtain ⟨store', written⟩ := AssetStore.write store ⟨Asset.fileName, data⟩
  cases written <;> simp

/-- **What creating does** with a configuration that has been read. Only the manifest of an
installable one is written, and nothing is ever announced. -/
theorem create_cases (hread : readConfig store = .ok c) (settings : Settings) :
    (∃ e, c.Refuses e ∧
      run .create store settings = ⟨store, "", [], .error (.manifest e)⟩) ∨
    (c.IsInstallable ∧ ∃ m data store' written,
      generated c settings = ⟨⟨some m, some ⟨Asset.fileName, data⟩⟩, [], .ok ()⟩ ∧
      AssetStore.write store ⟨Asset.fileName, data⟩ = (store', written) ∧
      run .create store settings =
        match written with
        | .error e => ⟨store', "", [], .error (.notWritten Asset.fileName e)⟩
        | .ok _ => ⟨store', "Created " ++ Asset.fileName ++ "\n", [], .ok ()⟩) := by
  obtain ⟨e, he, h⟩ | ⟨hc, m, data, h⟩ := generated_cases c settings
  · refine .inl ⟨e, he, ?_⟩
    rw [generated] at h
    simp only [run, runCreate, hread, h]
  · cases hwrite : AssetStore.write store ⟨Asset.fileName, data⟩ with
    | mk store' written =>
      refine .inr ⟨hc, m, data, store', written, h, hwrite, ?_⟩
      rw [create_of_generated hread h, hwrite]
      cases written <;> rfl

/-- **When creating succeeds.** Let a configuration be read from a store. Creating succeeds exactly
if its ranges can be read, each in the way of its list, the legacy plugin is not asked for ranges of
IPv6, and the file of the manifest can be written. Nothing is announced, and if creating fails, that
is because of what the configuration says, or because the file was not written. -/
theorem result_create {f : File} (hfetch : AssetStore.fetch store configName = .ok f)
    (hparse : InstallConfig.parse f.data = .ok c) (settings : Settings) :
    ((run .create store settings).result = .ok () ↔ c.IsInstallable ∧
      ∀ file ∈ (generated c settings).asset.files, (AssetStore.write store file).2 = .ok ()) ∧
    (c.IsInstallable → ∃ data,
      (generated c settings).asset.files = [⟨Asset.fileName, data⟩]) ∧
    (run .create store settings).notices = [] ∧
    ∀ e, (run .create store settings).result = .error e →
      (∃ cause, e = .manifest cause ∧ c.Refuses cause) ∨
        ∃ cause, e = .notWritten Asset.fileName cause := by
  obtain ⟨e, he, hcreate⟩ | ⟨hc, m, data, store', written, hgenerated, hwrite, hcreate⟩ :=
    create_cases (readConfig_of_parse hfetch hparse) settings
  · rw [hcreate]
    have hnot := he.not_isInstallable
    refine ⟨by simp [hnot], fun h => absurd h hnot, rfl, fun e' he' => ?_⟩
    obtain rfl := Except.error.inj he'
    exact .inl ⟨e, rfl, he⟩
  · have hfiles : (generated c settings).asset.files = [⟨Asset.fileName, data⟩] := by
      rw [hgenerated]
      rfl
    rw [hcreate, hfiles]
    refine ⟨?_, fun _ => ⟨data, rfl⟩, ?_, ?_⟩
    · cases written <;> simp [hc, hwrite]
    · cases written <;> rfl
    · intro e he
      cases written with
      | error cause => exact .inr ⟨cause, (Except.error.inj he).symm⟩
      | ok _ => cases he

/-- The text of a configuration for the legacy plugin. It leaves open what it can. -/
def legacyText : String :=
  "metadata:\n  name: ostest\nnetworking:\n  networkType: OpenShiftSDN\n  clusterNetwork:\n" ++
    "  - cidr: 10.128.0.0/14\n    hostPrefix: 23\n"

/-- The configuration of `legacyText`. -/
def legacyConfig : InstallConfig :=
  { InstallConfig.blank with
    metadata := ⟨"ostest", none⟩
    networking := some ⟨NetworkType.openShiftSDN, [⟨"10.128.0.0/14", 23⟩], [], []⟩ }

theorem result_create_legacy :
    (run .create (MemoryStore.ofFile ⟨configName, legacyText.toUTF8⟩) .standard).result =
      .ok () := by
  have hparse : InstallConfig.parse legacyText.toUTF8 = .ok legacyConfig :=
    Result.toOption_eq_some.1 (by decide +kernel)
  have hinstallable : legacyConfig.IsInstallable := by decide +kernel
  have hfetch := MemoryStore.fetch_ofFile ⟨configName, legacyText.toUTF8⟩
  obtain ⟨hresult, -⟩ := result_create hfetch hparse .standard
  exact hresult.2 ⟨hinstallable, fun _ _ => rfl⟩

end InstallManifest.Command
