import InstallManifest.Proofs.Command.Creation
import InstallManifest.Proofs.Store.Places

/-!
# What creating changes

Everything that can go wrong before the manifest is written goes wrong before anything is written,
so creating changes one file or none (`Command.create_effect`). What is written depends on the
configuration and on two of the settings. The manifest that is overwritten does not come into it,
and neither does any other file.
-/
namespace InstallManifest
open AssetStore PlacedStore Store

/-- A manifest is built with two of the settings. -/
theorem Manifest.build_congr {settings settings' : Settings}
    (hversion : settings.releaseVersion = settings'.releaseVersion)
    (hnamespace : settings.defaultNamespace = settings'.defaultNamespace) (c : InstallConfig)
    (policy : DefaultsPolicy) : build c settings policy = build c settings' policy := by
  obtain ⟨version, namespaceName, mode⟩ := settings
  obtain ⟨version', namespaceName', mode'⟩ := settings'
  obtain rfl : version = version' := hversion
  obtain rfl : namespaceName = namespaceName' := hnamespace
  rfl

namespace Command
variable {σ : Type} [AssetStore σ] {store : σ} {settings : Settings}

theorem generated_congr {settings' : Settings}
    (hversion : settings.releaseVersion = settings'.releaseVersion)
    (hnamespace : settings.defaultNamespace = settings'.defaultNamespace) (c : InstallConfig) :
    generated c settings = generated c settings' := by
  simp only [generated, Asset.generate, Manifest.build_congr hversion hnamespace]

/-- **How creating ends.** It fails before it writes, or because it cannot write, or it writes what
has been generated. -/
theorem create_ends (store : σ) (settings : Settings) :
    (∃ e, run .create store settings = ⟨store, "", [], .error e⟩) ∨
    (∃ file store' cause e, write store file = (store', .error cause) ∧
      run .create store settings = ⟨store', "", [], .error e⟩) ∨
    ∃ f c m data store', fetch store configName = .ok f ∧ InstallConfig.parse f.data = .ok c ∧
      generated c settings = ⟨⟨some m, some ⟨Asset.fileName, data⟩⟩, [], .ok ()⟩ ∧
      write store ⟨Asset.fileName, data⟩ = (store', .ok ()) ∧
      run .create store settings = ⟨store', "Created " ++ Asset.fileName ++ "\n", [], .ok ()⟩ := by
  cases hread : readConfig store with
  | error e => exact .inl ⟨e, by simp only [run, runCreate, hread]⟩
  | ok c =>
    obtain ⟨e, -, hrun⟩ | ⟨-, m, data, store', written, hgenerated, hwrite, hrun⟩ :=
      create_cases hread settings
    · exact .inl ⟨_, hrun⟩
    · cases written with
      | error cause => exact .inr (.inl ⟨_, store', cause, _, hwrite, hrun⟩)
      | ok _ =>
        obtain ⟨f, hfetch, hparse⟩ := exists_of_readConfig hread
        exact .inr (.inr ⟨f, c, m, data, store', hfetch, hparse, hgenerated, hwrite, hrun⟩)

/-- Creating succeeds if it writes what has been generated. -/
theorem exists_write_of_create (hcreate : (run .create store settings).result = .ok ()) :
    ∃ f c m data store', fetch store configName = .ok f ∧ InstallConfig.parse f.data = .ok c ∧
      generated c settings = ⟨⟨some m, some ⟨Asset.fileName, data⟩⟩, [], .ok ()⟩ ∧
      write store ⟨Asset.fileName, data⟩ = (store', .ok ()) ∧
      run .create store settings = ⟨store', "Created " ++ Asset.fileName ++ "\n", [], .ok ()⟩ := by
  obtain ⟨e, hrun⟩ | ⟨_, _, _, e, -, hrun⟩ | h := create_ends store settings
  · rw [hrun] at hcreate
    cases hcreate
  · rw [hrun] at hcreate
    cases hcreate
  · exact h

section
variable [PlacedStore σ]

/-- The configuration is not where the manifest is written. -/
theorem place_configName_ne (store : σ) :
    place store configName ≠ place store Asset.fileName :=
  place_ne store (by decide +kernel) (by decide +kernel) (by decide)

theorem create_of_error {e : CommandError}
    (hcreate : (run .create store settings).result = .error e) :
    (run .create store settings).output = "" ∧
      ∀ p, data? (run .create store settings).store p = data? store p := by
  obtain ⟨e, hrun⟩ | ⟨file, store', cause, e, hwrite, hrun⟩ |
    ⟨f, c, m, data, store', -, -, -, -, hrun⟩ := create_ends store settings
  · rw [hrun]
    exact ⟨rfl, fun _ => rfl⟩
  · obtain rfl : (write store file).1 = store' := by rw [hwrite]
    rw [hrun]
    exact ⟨rfl, data?_of_write_error (by rw [hwrite])⟩
  · rw [hrun] at hcreate
    cases hcreate

/-- The configuration is still there, so the same is generated, and it is there already. -/
theorem create_again (hcreate : (run .create store settings).result = .ok ()) :
    run .create (run .create store settings).store settings = run .create store settings := by
  obtain ⟨f, c, m, data, store', hfetch, hparse, hgenerated, hwrite, hrun⟩ :=
    exists_write_of_create hcreate
  have hread : readConfig store' = .ok c :=
    readConfig_of_parse (fetch_of_write hwrite (place_configName_ne store) hfetch) hparse
  rw [hrun, create_of_generated hread hgenerated, write_again hwrite]

end

/-- A directory with the configuration for the legacy plugin, and a file in the manifest's place. -/
def staleDirectory : Directory :=
  .ofPath (.dir [("cluster-manifests", .dir [("agent-cluster-install.yaml", .file "?".toUTF8)]),
    (configName, .file legacyText.toUTF8)]) [] "."

end Command
end InstallManifest
