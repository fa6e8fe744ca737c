import InstallManifest.Proofs.Asset.Adoption
import InstallManifest.Proofs.Config.Defaults

/-!
# Loading with the installer's defaults

The installer has a network type for every manifest that has none, so loading never fails for the
want of one. The type that is supplied is not that of the legacy plugin, and the check has nothing
to say about it: a manifest is refused for what its own document says, or not at all.
-/
namespace InstallManifest
namespace Manifest
variable {m : Manifest}

/-- The manifest with the plugin that is used if none is chosen, unless it names one itself. -/
def resolved (m : Manifest) : Manifest :=
  if m.networkType = "" then m.withNetworkType NetworkType.ovnKubernetes else m

theorem networkType_resolved_ne (m : Manifest) : m.resolved.networkType ≠ "" := by
  unfold resolved
  split
  next => simp [NetworkType.ovnKubernetes]
  next htype => exact htype

theorem exists_resolve_installer (m : Manifest) :
    ∃ r, m.resolve (some .blank) Defaults.installer = .ok r ∧ r.manifest = m.resolved := by
  by_cases htype : m.networkType = ""
  · have hsupplied : (Defaults.installer .blank).networkType? = some NetworkType.ovnKubernetes :=
      Defaults.networkType?_installer .blank
    refine ⟨⟨m.withNetworkType NetworkType.ovnKubernetes, .defaulted⟩, ?_, ?_⟩
    · have hblank : (some InstallConfig.blank).bind (·.networkType?) = none := rfl
      simp [resolve, htype, hblank, hsupplied]
    · rw [resolved, if_pos htype]
  · exact ⟨_, resolve_of_ne_empty htype, by rw [resolved, if_neg htype]⟩

/-- The check looks at the ranges of the legacy plugin only, and that is not what is supplied. -/
theorem problems_resolved (m : Manifest) : m.resolved.problems = m.problems := by
  unfold resolved
  split
  next htype =>
    have hown : m.problems = [] := problems_of_ne (by rw [htype]; decide)
    have hsupplied : (m.withNetworkType NetworkType.ovnKubernetes).problems = [] :=
      problems_of_ne (by rw [networkType_withNetworkType]; decide)
    rw [hsupplied, hown]
  next => rfl

end Manifest

namespace Asset
variable {σ : Type} [AssetStore σ] {store : σ} {a : Asset} {settings : Settings}
  {policy : DefaultsPolicy} {f : File} {m : Manifest}

theorem load_of_notFound {e : StoreError} (hfetch : AssetStore.fetch store fileName = .error e)
    (he : e.isNotFound) : a.load store settings policy = ⟨a, [], .ok false⟩ := by
  simp [load, hfetch, he]

theorem load_of_fetch_error {e : StoreError} (hfetch : AssetStore.fetch store fileName = .error e)
    (he : e.isNotFound = false) :
    a.load store settings policy = ⟨a, [], .error (.notLoaded fileName e)⟩ := by
  simp [load, hfetch, he]

theorem load_of_decode_error {e : DecodeError} (hfetch : AssetStore.fetch store fileName = .ok f)
    (hdecode : Manifest.decode settings.parseMode f.data = .error e) :
    a.load store settings policy = ⟨a, [], .error (.notDecoded fileName e)⟩ := by
  simp [load, hfetch, resolveFile, hdecode, adopt, bind, Except.bind]

/-- A manifest with problems of its own is refused for them. -/
theorem exists_load_of_problems (hfetch : AssetStore.fetch store fileName = .ok f)
    (hdecode : Manifest.decode settings.parseMode f.data = .ok m) (hproblems : m.problems ≠ []) :
    ∃ notices aggregate, a.load store settings Defaults.installer =
      ⟨a, notices, .error (.invalidNetworkType aggregate)⟩ ∧ aggregate.errors = m.problems := by
  obtain ⟨r, hresolve, hr⟩ := m.exists_resolve_installer
  have hresolution : resolveFile f settings.parseMode Defaults.installer = .ok r :=
    resolveFile_eq_ok_iff.2 ⟨m, hdecode, hresolve⟩
  have hown : r.manifest.problems = m.problems := by rw [hr, m.problems_resolved]
  cases hlist : m.problems with
  | nil => exact absurd hlist hproblems
  | cons problem problems =>
    refine ⟨r.notices Resolution.loadWarning, ⟨problem, problems⟩, ?_, rfl⟩
    have hcheck : check (some r.manifest) = .error (.invalidNetworkType ⟨problem, problems⟩) := by
      simp [check, hown, hlist, ErrorList.toResult]
    simp [load, hfetch, adopt, hresolution, ofResolution, hcheck, bind, Except.bind]

/-- A manifest without problems is taken over, with a network type. -/
theorem exists_load_of_valid (hfetch : AssetStore.fetch store fileName = .ok f)
    (hdecode : Manifest.decode settings.parseMode f.data = .ok m) (hproblems : m.problems = []) :
    ∃ notices, a.load store settings Defaults.installer =
      ⟨⟨some m.resolved, some f⟩, notices, .ok true⟩ := by
  obtain ⟨r, hresolve, hr⟩ := m.exists_resolve_installer
  have hcheck : check (some r.manifest) = .ok () := by
    simp [check, hr, m.problems_resolved, hproblems, ErrorList.toResult]
  exact ⟨_, hr ▸ load_of_ok hfetch hdecode hresolve hcheck⟩

end Asset
end InstallManifest
