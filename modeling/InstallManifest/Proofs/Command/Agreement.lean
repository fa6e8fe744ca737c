import InstallManifest.Proofs.Asset.Persistence
import InstallManifest.Proofs.Command.Creation

/-!
# The commands agree

What has been created is found valid, and is shown as it was written. Validating and showing decode
the file again, with settings of their own, and showing encodes what it has decoded; none of that
makes a difference to a manifest that has been built.
-/
namespace InstallManifest.Command
variable {σ : Type} [AssetStore σ] {store : σ} {c : InstallConfig} {settings : Settings}

/-- A created manifest was built of the completed configuration, and its file was written. -/
theorem exists_of_create (hcreate : (run .create store settings).result = .ok ()) :
    ∃ c r data, readConfig store = .ok c ∧
      Manifest.build (Defaults.installer c) settings Defaults.installer = .ok r ∧
      r.manifest.encode = .ok data ∧ Asset.check (some r.manifest) = .ok () ∧
      (generated c settings).asset = ⟨some r.manifest, some ⟨Asset.fileName, data⟩⟩ ∧
      AssetStore.write store ⟨Asset.fileName, data⟩ =
        ((run .create store settings).store, .ok ()) := by
  cases hread : readConfig store with
  | error e => simp [run, runCreate, hread] at hcreate
  | ok c =>
    obtain ⟨e, -, hrun⟩ | ⟨-, m, data, store', written, hgenerated, hwrite, hrun⟩ :=
      create_cases hread settings
    · rw [hrun] at hcreate
      cases hcreate
    · obtain ⟨notices, e, h⟩ | ⟨r, data', hbuild, hencode, hcheck⟩ :=
        Asset.empty.generate_cases (Defaults.installer c) settings Defaults.installer
      · rw [generated, h] at hgenerated
        cases hgenerated
      · have hasset : (generated c settings).asset =
            ⟨some r.manifest, some ⟨Asset.fileName, data'⟩⟩ := by
          rw [generated, Asset.generate_of_ok hbuild hencode hcheck]
        obtain rfl : data = data' := by simpa [hgenerated] using congrArg Asset.file hasset
        refine ⟨c, r, data, rfl, hbuild, hencode, hcheck, hasset, ?_⟩
        cases written with
        | error e =>
          rw [hrun] at hcreate
          cases hcreate
        | ok _ => rw [hwrite, hrun]

/-! ## Reports -/

theorem report_of_load {m : Manifest} {file : Option File}
    (hload : Asset.empty.load store settings Defaults.installer = ⟨⟨some m, file⟩, [], .ok true⟩)
    {missing : Except CommandError String} {text : Manifest → Except CommandError String}
    {output : String} (htext : text m = .ok output) :
    report store settings missing text = ⟨store, output, [], .ok ()⟩ := by
  simp only [report, hload, htext]

/-- What is said of a manifest that was built names the cluster and its network type. -/
theorem verdict_of_build {r : Resolution}
    (hbuild : Manifest.build (Defaults.installer c) settings Defaults.installer = .ok r) :
    verdict r.manifest = "AgentClusterInstall Config " ++ c.metadata.name ++
      " is valid (networkType: " ++ c.networkType?.getD NetworkType.ovnKubernetes ++ ")\n" := by
  have hname : r.manifest.name = c.metadata.name := by
    rw [Manifest.name, Manifest.metadata_of_build hbuild]
    rfl
  have htype := Manifest.networkType_of_build (Defaults.isComplete_installer c) hbuild
  rw [Defaults.networkType?_installer] at htype
  have hlabel : Asset.name ++ " " = "AgentClusterInstall Config " := rfl
  rw [verdict, hlabel, hname, ← Option.some.inj htype]

/-- **The commands agree.** If creating succeeds, then whoever validates what is there afterwards,
in whichever mode, is told the name of the cluster and its network type, and whoever shows it sees
the text that was written. Neither is told anything else, and nothing changes. -/
theorem agree_of_create [LawfulStore σ] (hcreate : (run .create store settings).result = .ok ())
    (hread : ∀ c, readConfig store = .ok c →
      ∀ m ∈ (generated c settings).asset.manifest, m.toValue.IsReadBack) :
    ∃ c text store', readConfig store = .ok c ∧ (run .create store settings).store = store' ∧
      AssetStore.write store ⟨Asset.fileName, text.toUTF8⟩ = (store', .ok ()) ∧
      AssetStore.fetch store' Asset.fileName = .ok ⟨Asset.fileName, text.toUTF8⟩ ∧
      ∀ settings',
        run .validate store' settings' =
          ⟨store', "AgentClusterInstall Config " ++ c.metadata.name ++ " is valid (networkType: " ++
            c.networkType?.getD NetworkType.ovnKubernetes ++ ")\n", [], .ok ()⟩ ∧
        run .show store' settings' = ⟨store', text, [], .ok ()⟩ := by
  obtain ⟨c, r, data, hconfig, hbuild, hencode, hcheck, hasset, hwrite⟩ :=
    exists_of_create hcreate
  obtain ⟨text, htext, rfl⟩ : ∃ text, r.manifest.toValue.text = .ok text ∧ text.toUTF8 = data :=
    Result.exists_of_map hencode
  have hfetch := LawfulStore.keeps store _ _ hwrite
  have hback : r.manifest.toValue.IsReadBack := by
    refine hread c hconfig _ ?_
    rw [hasset]
    rfl
  refine ⟨c, text, _, hconfig, rfl, hwrite, hfetch, fun settings' => ?_⟩
  -- Both commands load first, and what they load is the manifest that was built.
  have hload : Asset.empty.load _ settings' Defaults.installer =
      ⟨⟨some r.manifest, some ⟨Asset.fileName, text.toUTF8⟩⟩, [], .ok true⟩ :=
    Asset.load_of_build hbuild hback hencode hcheck hfetch
  constructor
  · exact report_of_load hload (congrArg Except.ok (verdict_of_build hbuild))
  · refine report_of_load hload ?_
    rw [htext]
    rfl

/-- A directory that holds the configuration for the legacy plugin and nothing else. -/
def legacyDirectory : Directory :=
  .ofPath (.dir [(configName, .file legacyText.toUTF8)]) [] "."

theorem agree_of_create_legacy : ∃ text store',
    (run .create legacyDirectory .standard).store = store' ∧
      AssetStore.fetch store' Asset.fileName = .ok ⟨Asset.fileName, text.toUTF8⟩ ∧
      run .validate store' ⟨"4.15.0", "", .lenient⟩ = ⟨store',
        "AgentClusterInstall Config ostest is valid (networkType: OpenShiftSDN)\n", [], .ok ()⟩ ∧
      run .show store' ⟨"4.15.0", "", .lenient⟩ = ⟨store', text, [], .ok ()⟩ := by
  have hconfig : readConfig legacyDirectory = .ok legacyConfig :=
    Result.toOption_eq_some.1 (by decide +kernel)
  have hcreate : (run .create legacyDirectory .standard).result = .ok () :=
    Result.toOption_eq_some.1 (by decide +kernel)
  have hback : ∀ m ∈ (generated legacyConfig .standard).asset.manifest, m.toValue.IsReadBack := by
    decide +kernel
  obtain ⟨c, text, store', hc, hstore, -, hfetch, hruns⟩ := agree_of_create hcreate fun c hc => by
    obtain rfl : legacyConfig = c := Except.ok.inj (hconfig.symm.trans hc)
    exact hback
  obtain rfl : legacyConfig = c := Except.ok.inj (hconfig.symm.trans hc)
  obtain ⟨hvalidate, hshow⟩ := hruns ⟨"4.15.0", "", .lenient⟩
  exact ⟨text, store', hstore, hfetch, hvalidate, hshow⟩

end InstallManifest.Command
