import InstallManifest.Command
import InstallManifest.Proofs.Asset.Adoption
import InstallManifest.Proofs.Manifest.Build
import InstallManifest.Proofs.Manifest.RoundTrip
import InstallManifest.Proofs.Store.Laws

/-!
# A generated manifest is loaded as it was generated

A manifest that has been built says nothing that a document cannot say: it has no points in time, no
free-form data, and a network type. So loading its file finds the manifest itself, and neither the
settings nor the defaults policy of the one who loads it have any part in that.
-/
namespace InstallManifest
namespace Manifest
variable {c : InstallConfig} {settings : Settings} {policy : DefaultsPolicy} {r : Resolution}
  {data : ByteArray}

theorem isExpressible_metadata (c : InstallConfig) (settings : Settings) :
    (Build.metadata c settings).IsExpressible := by
  have htimes : (Build.metadata c settings).times = [] := rfl
  have hpayloads : (Build.metadata c settings).payloads = [] := rfl
  exact ⟨by simp [htimes], by simp [hpayloads]⟩

/-- The bytes of a manifest that has been built hold the manifest. -/
theorem decode_build (hbuild : build c settings policy = .ok r)
    (hread : r.manifest.toValue.IsReadBack) (hencode : r.manifest.encode = .ok data)
    (mode : ParseMode) : decode mode data = .ok r.manifest := by
  have hmetadata : r.manifest.metadata.IsExpressible := by
    rw [metadata_of_build hbuild]
    exact isExpressible_metadata c settings
  exact decode_of_status_eq_none hmetadata (status_of_build hbuild) hread hencode mode

end Manifest

namespace Command
variable {σ : Type} [AssetStore σ] {s s' : σ} {f : File} {output output' : String}

/-- A file that was written to a store that keeps it is fetched from there. -/
theorem fetch_of_writeFiles (hs : AssetStore.Keeps s)
    (hwrite : writeFiles s output [f] = (s', output', .ok ())) :
    AssetStore.fetch s' f.name = .ok f := by
  cases hstep : AssetStore.write s f with
  | mk s₁ result =>
    cases result with
    | error e => simp [writeFiles, hstep] at hwrite
    | ok _ =>
      obtain ⟨rfl, -⟩ : s₁ = s' ∧ _ := by simpa [writeFiles, hstep] using hwrite
      exact hs f s₁ hstep

end Command

/-- Files can always be written to memory. -/
theorem MemoryStore.exists_writeFiles (s : MemoryStore) (output : String) (files : List File) :
    ∃ s' output', Command.writeFiles s output files = (s', output', .ok ()) := by
  induction files generalizing s output with
  | nil => exact ⟨s, output, rfl⟩
  | cons f files ih =>
    obtain ⟨s', output', hrest⟩ := ih (s.insert f.name f.data)
      (output ++ "Created " ++ f.name ++ "\n")
    exact ⟨s', output', by simpa [Command.writeFiles, AssetStore.write] using hrest⟩

namespace Asset

/-- Whoever finds the file of a manifest that has been built takes over that manifest. -/
theorem load_of_build {a : Asset} {c : InstallConfig} {settings settings' : Settings}
    {policy policy' : DefaultsPolicy} {r : Resolution} {data : ByteArray} {σ : Type} [AssetStore σ]
    {s : σ} (hbuild : Manifest.build c settings policy = .ok r)
    (hread : r.manifest.toValue.IsReadBack) (hencode : r.manifest.encode = .ok data)
    (hcheck : check (some r.manifest) = .ok ())
    (hfetch : AssetStore.fetch s fileName = .ok ⟨fileName, data⟩) :
    a.load s settings' policy' = ⟨⟨some r.manifest, some ⟨fileName, data⟩⟩, [], .ok true⟩ :=
  load_of_ok hfetch (Manifest.decode_build hbuild hread hencode _)
    (Manifest.resolve_of_ne_empty (Manifest.networkType_ne_empty_of_build hbuild)) hcheck

/-- **Loading inverts generating.** Let the files of a generated asset be written to a store that
keeps what is written. Whoever loads from there, in whichever mode and with whichever defaults,
takes over the very same asset, and nothing is announced. -/
theorem load_generated {a b : Asset} {c : InstallConfig} {settings : Settings}
    {policy : DefaultsPolicy} (hgenerate : (a.generate (some c) settings policy).result = .ok ())
    (hread : ∀ m ∈ (a.generate (some c) settings policy).asset.manifest, m.toValue.IsReadBack)
    {σ : Type} [AssetStore σ] {s s' : σ} (hs : AssetStore.Keeps s) {output output' : String}
    (hwrite : Command.writeFiles s output (a.generate (some c) settings policy).asset.files =
      (s', output', .ok ()))
    (settings' : Settings) (policy' : DefaultsPolicy) :
    b.load s' settings' policy' =
      ⟨(a.generate (some c) settings policy).asset, [], .ok true⟩ := by
  obtain ⟨notices, e, h⟩ | ⟨r, data, hbuild, hencode, hcheck⟩ :=
    a.generate_cases c settings policy
  · simp [h] at hgenerate
  rw [generate_of_ok hbuild hencode hcheck] at hread hwrite ⊢
  have hfetch : AssetStore.fetch s' fileName = .ok ⟨fileName, data⟩ :=
    Command.fetch_of_writeFiles hs hwrite
  have hdecode : Manifest.decode settings'.parseMode data = .ok r.manifest :=
    Manifest.decode_build hbuild (hread _ rfl) hencode _
  -- The network type that was generated is not empty, so there is none to find.
  have hresolve : r.manifest.resolve (some .blank) policy' = .ok ⟨r.manifest, .alreadySet⟩ :=
    Manifest.resolve_of_ne_empty (Manifest.networkType_ne_empty_of_build hbuild)
  exact load_of_ok hfetch hdecode hresolve hcheck

/-- The configuration of a cluster whose names and addresses are read as texts only if they are
quoted, and whose pools are larger than can be counted. -/
def quotedConfig : InstallConfig :=
  { InstallConfig.blank with
    metadata := ⟨"null", some "~"⟩
    controlPlane := some ⟨"master", some 3⟩
    compute := [⟨"a", some 4294967295⟩, ⟨"b", some 1⟩]
    networking := some ⟨"", [⟨"fd01::/48", 64⟩], ["172.30.0.0/16"], []⟩
    platform := ⟨some ⟨["", "1e3"], ["0x10"], none, none⟩, none, true⟩
    sshKey := "|\n key: # \t" }

theorem load_generated_quoted :
    let generated := empty.generate (some quotedConfig) .standard Defaults.installer
    generated.result = .ok () ∧ ∃ s' output',
      Command.writeFiles MemoryStore.empty "" generated.asset.files = (s', output', .ok ()) ∧
        empty.load s' ⟨"4.15.0", "", .lenient⟩ (fun _ => .blank) =
          ⟨generated.asset, [], .ok true⟩ := by
  have hgenerate : (empty.generate (some quotedConfig) .standard Defaults.installer).result =
    .ok () := rfl
  have hread : ∀ m ∈ (empty.generate (some quotedConfig) .standard
      Defaults.installer).asset.manifest, m.toValue.IsReadBack := by decide +kernel
  obtain ⟨s', output', hwrite⟩ := MemoryStore.empty.exists_writeFiles ""
    (empty.generate (some quotedConfig) .standard Defaults.installer).asset.files
  exact ⟨hgenerate, s', output', hwrite,
    load_generated hgenerate hread MemoryStore.empty.keeps hwrite _ _⟩

end Asset
end InstallManifest
