import InstallManifest.Proofs.Asset.Adoption
import InstallManifest.Proofs.Config.Defaults
import InstallManifest.Proofs.Manifest.RoundTrip

/-!
# Generating from a complete configuration

A complete configuration leaves the builder nothing to look for. The first range that cannot be read
ends the build; otherwise there is a manifest with the network type of the configuration, which can
be encoded, and only the legacy plugin can be wrong about it (`Asset.generate_of_isComplete`).
-/
namespace InstallManifest
namespace Manifest
variable {c : InstallConfig} {settings : Settings} {policy : DefaultsPolicy} {r : Resolution}
  {m : Manifest} {e : ManifestError}

/-! ## Building -/

theorem Build.exists_workerAgents {pools : List InstallConfig.MachinePool}
    (h : ∀ p ∈ pools, ∃ n, p.replicas = some n) (total : UInt32) :
    ∃ n, workerAgents total pools = .ok n := by
  induction pools generalizing total with
  | nil => exact ⟨total, rfl⟩
  | cons p pools ih =>
    obtain ⟨n, hn⟩ := h p List.mem_cons_self
    simp only [workerAgents, hn]
    exact ih (fun q hq => h q (List.mem_cons_of_mem p hq)) _

theorem Build.draft_of_error (hc : c.IsComplete)
    (hn : Build.networking (c.networking.getD .blank) = .error e) :
    draft c settings = .error e := by
  obtain ⟨control, hcontrol⟩ := hc.controlPlane
  obtain ⟨workers, hworkers⟩ := exists_workerAgents hc.compute 0
  simp only [draft, controlPlaneAgents, hcontrol, hworkers, hn, bind, Except.bind]

theorem Build.exists_draft {n : Networking} (hc : c.IsComplete) (settings : Settings)
    (hn : Build.networking (c.networking.getD .blank) = .ok n) :
    ∃ m, draft c settings = .ok m ∧ m.networkType = "" := by
  obtain ⟨control, hcontrol⟩ := hc.controlPlane
  obtain ⟨workers, hworkers⟩ := exists_workerAgents hc.compute 0
  obtain ⟨-, htype, -⟩ := networking_rest hn
  simp only [draft, controlPlaneAgents, hcontrol, hworkers, hn, bind, Except.bind]
  exact ⟨_, rfl, htype⟩

theorem build_of_error (hc : c.IsComplete) (settings : Settings) (policy : DefaultsPolicy)
    (hn : Build.networking (c.networking.getD .blank) = .error e) :
    build c settings policy = .error e := by
  simp only [build, Build.draft_of_error hc hn, bind, Except.bind]

/-- A manifest has the network type of its configuration, if there is one. -/
theorem exists_build {n : Networking} (hc : c.IsComplete) (settings : Settings)
    (policy : DefaultsPolicy) (hn : Build.networking (c.networking.getD .blank) = .ok n) :
    ∃ r, build c settings policy = .ok r ∧ r.source = .installConfig ∧
      c.networkType? = some r.manifest.networkType := by
  obtain ⟨t, ht⟩ := hc.networkType
  obtain ⟨m, hm, hempty⟩ := Build.exists_draft hc settings hn
  have hresolve : m.resolve (some c) policy = .ok ⟨m.withNetworkType t, .installConfig⟩ := by
    simp [resolve, hempty, ht]
  obtain ⟨api, ingress, hvips⟩ := Build.exists_withVips_eq (m.withNetworkType t) c.platform.vips
  refine ⟨⟨Build.withVips (m.withNetworkType t) c.platform.vips, .installConfig⟩, ?_, rfl, ?_⟩
  · simp only [build, hm, hresolve, bind, Except.bind]
    rfl
  · rw [hvips]
    exact ht

theorem networkType_of_build (hc : c.IsComplete) (h : build c settings policy = .ok r) :
    c.networkType? = some r.manifest.networkType := by
  cases hn : Build.networking (c.networking.getD .blank) with
  | error e =>
    rw [build_of_error hc settings policy hn] at h
    cases h
  | ok n =>
    obtain ⟨r', hbuild, -, htype⟩ := exists_build hc settings policy hn
    obtain rfl : r' = r := Except.ok.inj (hbuild.symm.trans h)
    exact htype

theorem exists_encode_of_build (h : build c settings policy = .ok r) :
    ∃ data, r.manifest.encode = .ok data := by
  rw [exists_encode_iff, status_of_build h]
  simp

end Manifest

/-! ## Generating -/

namespace Asset
open Validation

variable {a : Asset} {c : InstallConfig} {settings : Settings} {policy : DefaultsPolicy}
  {r : Resolution} {data : ByteArray}

theorem generate_of_error {e : ManifestError} (h : Manifest.build c settings policy = .error e) :
    a.generate (some c) settings policy = ⟨a, [], .error e⟩ := by
  simp only [generate, adopt, h]

theorem generate_of_problems {problem : FieldError} {problems : List FieldError}
    (hbuild : Manifest.build c settings policy = .ok r) (hencode : r.manifest.encode = .ok data)
    (hproblems : r.manifest.problems = problem :: problems) :
    a.generate (some c) settings policy =
      ⟨a, r.notices Resolution.buildWarning, .error (.invalidNetworkType ⟨problem, problems⟩)⟩ := by
  have hcheck : check (some r.manifest) = .error (.invalidNetworkType ⟨problem, problems⟩) := by
    simp [check, hproblems, ErrorList.toResult]
  simp only [generate, adopt, hbuild, ofResolution, fileOf, hencode, hcheck, bind, Except.bind]

theorem check_of_problems_eq_nil {m : Manifest} (h : m.problems = []) :
    check (some m) = .ok () := by
  simp [check, h, ErrorList.toResult]

/-- **What comes of a complete configuration**: the reason why it is refused, or a manifest and its
file. Nothing is announced. -/
theorem generate_of_isComplete (hc : c.IsComplete) (a : Asset) (settings : Settings)
    (policy : DefaultsPolicy) :
    (∃ e, c.Refuses e ∧ a.generate (some c) settings policy = ⟨a, [], .error e⟩) ∨
    (c.IsInstallable ∧ ∃ m data,
      a.generate (some c) settings policy = ⟨⟨some m, some ⟨fileName, data⟩⟩, [], .ok ()⟩) := by
  cases hn : Manifest.Build.networking (c.networking.getD .blank) with
  | error e =>
    obtain ⟨list, text, htext, cause, hfail, rfl⟩ :=
      Manifest.Build.exists_of_networking_eq_error hn
    have hbuild := Manifest.build_of_error hc settings policy hn
    exact .inl ⟨_, .range htext hfail, generate_of_error hbuild⟩
  | ok n =>
    obtain ⟨r, hbuild, hsource, htype⟩ := Manifest.exists_build hc settings policy hn
    obtain ⟨data, hencode⟩ := Manifest.exists_encode_of_build hbuild
    have hnotices : r.notices Resolution.buildWarning = [] := by
      simp only [Resolution.notices, hsource]
    -- The manifest is asked for its own network type, which is that of the configuration.
    have hvalid : r.manifest.problems = [] ↔
        ¬ (c.networkType? = some NetworkType.openShiftSDN ∧
          (HasIPv6 (c.ranges .cluster) ∨ HasIPv6 (c.ranges .service))) := by
      rw [Manifest.problems_eq_nil_iff hbuild, htype, Option.some_inj]
    cases hproblems : r.manifest.problems with
    | nil =>
      have hgenerate := generate_of_ok (a := a) hbuild hencode (check_of_problems_eq_nil hproblems)
      rw [hnotices] at hgenerate
      have hreadable := Manifest.Build.exists_networking_iff.1 ⟨n, hn⟩
      exact .inr ⟨⟨hreadable, hvalid.1 hproblems⟩, r.manifest, data, hgenerate⟩
    | cons problem problems =>
      have hgenerate := generate_of_problems (a := a) hbuild hencode hproblems
      rw [hnotices] at hgenerate
      rw [hproblems] at hvalid
      obtain ⟨htype, hranges⟩ := not_not.1 (mt hvalid.2 (List.cons_ne_nil problem problems))
      exact .inl ⟨_, .networkType _ htype hranges, hgenerate⟩

end Asset
end InstallManifest
