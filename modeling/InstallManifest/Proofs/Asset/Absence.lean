import InstallManifest.Proofs.Asset.Loading
import InstallManifest.Proofs.Store.Absence

/-!
# When there is nothing to load

Loading answers that there is no manifest exactly if the store reports its file as missing. A
directory does not report all files as missing that are not there: if the directory of the manifests
is a file, there is nothing to load either, and loading fails (`Asset.load_occupied`).
-/
namespace InstallManifest
open Store

namespace Asset
variable {σ : Type} [AssetStore σ]

theorem result_load_eq_false_iff (a : Asset) (store : σ) (settings : Settings)
    (policy : DefaultsPolicy) : (a.load store settings policy).result = .ok false ↔
      ∃ e, AssetStore.fetch store fileName = .error e ∧ e.isNotFound = true := by
  cases hfetch : AssetStore.fetch store fileName with
  | error e =>
    by_cases he : e.isNotFound = true
    · simp [load_of_notFound hfetch he, he]
    · have hfails : e.isNotFound = false := by simpa using he
      simp [load_of_fetch_error hfetch hfails, hfails]
  | ok f =>
    have hload : a.load store settings policy = a.adopt Resolution.loadWarning true
        (resolveFile f settings.parseMode policy) fun _ => .ok f := by
      simp only [load, hfetch]
    obtain ⟨notices, e, h⟩ | ⟨r, f', -, -, -, h⟩ := adopt_cases a Resolution.loadWarning true
      (resolveFile f settings.parseMode policy) fun _ => .ok f
    · simp [hload, h]
    · simp [hload, h]

/-- **What is missing** in a directory: the names that are absent. Where a file is on the way to a
name, that is a failure instead. Loading finds no manifest exactly if its name is absent. -/
theorem reports_missing_iff_isAbsent (d : Directory) :
    (∀ name, Directory.isConfined name = true → d.IsWithinLimits name →
      (d.fetch name = .error (.notFound name) ↔ d.IsAbsent name) ∧
      ∀ way data, d.tree.walk d.start (Path.front d.root) = .ok d.rootPlace →
        way <+: Tree.names (Path.components name) → way ≠ Tree.names (Path.components name) →
        d.tree.data? (d.rootPlace ++ way) = some data →
          d.fetch name = .error (.io (d.path name) .notDirectory)) ∧
    (d.IsWithinLimits fileName → ∀ (a : Asset) (settings : Settings) (policy : DefaultsPolicy),
      ((a.load d settings policy).result = .ok false ↔ d.IsAbsent fileName)) := by
  refine ⟨fun name hname hlimits => ⟨Directory.fetch_eq_notFound_iff hname hlimits, ?_⟩, ?_⟩
  · intro way data hroot hway hne hfile
    exact Directory.fetch_of_file_on_way hname hlimits hroot hway hne hfile
  · intro hlimits a settings policy
    have hname : Directory.isConfined fileName = true := by decide +kernel
    rw [result_load_eq_false_iff, ← Directory.fetch_eq_notFound_iff hname hlimits]
    constructor
    · rintro ⟨e, hfetch, he⟩
      rw [← Directory.eq_notFound_of_isNotFound hfetch he]
      exact hfetch
    · intro hfetch
      exact ⟨.notFound fileName, hfetch, rfl⟩

/-- A directory that is there and empty. -/
def emptyAssets : Directory := Directory.ofPath (.dir [("assets", .emptyDir)]) [] "assets"

/-- A directory with a file in it, under the name of the directory that manifests are kept in. -/
def occupied : Directory := (emptyAssets.write ⟨directory, "x".toUTF8⟩).1

theorem reports_missing_emptyAssets :
    emptyAssets.fetch "notes" = .error (.notFound "notes") ∧
      (empty.load emptyAssets .standard Defaults.installer).result = .ok false ∧
      occupied.fetch fileName = .error (.io (occupied.path fileName) .notDirectory) := by
  have hroot : emptyAssets.tree.walk emptyAssets.start (Path.front emptyAssets.root) =
      .ok emptyAssets.rootPlace := by decide +kernel
  have hnotes : emptyAssets.IsAbsent "notes" :=
    .inr ⟨hroot, Tree.isMissing_cons_iff.2 ⟨rfl, Tree.isMissing_of_none rfl []⟩⟩
  have hfile : emptyAssets.IsAbsent fileName :=
    .inr ⟨hroot, Tree.isMissing_cons_iff.2 ⟨rfl, Tree.isMissing_of_none rfl _⟩⟩
  refine ⟨?_, ?_, ?_⟩
  · have hlimits : emptyAssets.IsWithinLimits "notes" := by decide +kernel
    exact ((reports_missing_iff_isAbsent emptyAssets).1 "notes" (by decide) hlimits).1.2 hnotes
  · have hlimits : emptyAssets.IsWithinLimits fileName := by decide +kernel
    exact ((reports_missing_iff_isAbsent emptyAssets).2 hlimits empty .standard
      Defaults.installer).2 hfile
  · have hname : Directory.isConfined fileName = true := by decide +kernel
    have hlimits : occupied.IsWithinLimits fileName := by decide +kernel
    have hreached : occupied.tree.walk occupied.start (Path.front occupied.root) =
      .ok occupied.rootPlace := by decide +kernel
    exact ((reports_missing_iff_isAbsent occupied).1 fileName hname hlimits).2 [directory]
      "x".toUTF8 hreached ⟨["agent-cluster-install.yaml"], by decide +kernel⟩ (by decide +kernel)
      (by decide +kernel)

/-- **A file in the way.** Nothing is in the place of the manifest, and yet it is not reported as
missing: loading fails. -/
theorem load_occupied :
    (emptyAssets.write ⟨directory, "x".toUTF8⟩).2 = .ok () ∧
      Directory.isConfined fileName = true ∧ occupied.IsWithinLimits fileName ∧
      occupied.tree.get? (occupied.place fileName) = none ∧
      occupied.fetch fileName = .error (.io (occupied.path fileName) .notDirectory) ∧
      (empty.load occupied .standard Defaults.installer).result =
        .error (.notLoaded fileName (.io (occupied.path fileName) .notDirectory)) := by
  have hfetch : AssetStore.fetch occupied fileName =
      .error (.io (occupied.path fileName) .notDirectory) := by decide +kernel
  refine ⟨by decide +kernel, by decide +kernel, by decide +kernel, rfl, hfetch, ?_⟩
  rw [load_of_fetch_error hfetch rfl]

end Asset
end InstallManifest
