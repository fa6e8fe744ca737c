import InstallManifest.Proofs.Asset.Generation

/-!
# What generating refuses

The builder writes ranges as texts and the check of a manifest reads them again. They agree: of a
manifest that has been built, the check can read every range, and finds the families that the
configuration's own texts have. So the only errors are at the network type, at most one for each of
the two lists that are checked, and these errors are what generating fails with
(`Asset.generate_of_build`).
-/
namespace InstallManifest
open Validation

/-- The errors of a configuration for a network type: the legacy plugin is asked for ranges of IPv6,
list by list. -/
def InstallConfig.incompatibilities (c : InstallConfig) (networkType : String) : ErrorList :=
  if networkType = NetworkType.openShiftSDN then
    (if HasIPv6 (c.ranges .cluster) then [incompatible "clusterNetwork"] else []) ++
      if HasIPv6 (c.ranges .service) then [incompatible "serviceNetwork"] else []
  else []

namespace InstallConfig
variable (c : InstallConfig) (networkType : String)

theorem field_of_mem_incompatibilities {e : FieldError} (he : e ∈ c.incompatibilities networkType) :
    e.field = .networkType := by
  have hlist (p : Prop) [Decidable p] (label : String)
      (h : e ∈ if p then [incompatible label] else []) : e.field = .networkType := by
    split at h
    · rw [List.mem_singleton.1 h]
      rfl
    · cases h
  unfold incompatibilities at he
  split at he
  · obtain he | he := List.mem_append.1 he
    · exact hlist _ _ he
    · exact hlist _ _ he
  · cases he

/-- No other field than the network type has errors. -/
theorem countAt_incompatibilities_of_ne {field : FieldPath} (hfield : field ≠ .networkType) :
    (c.incompatibilities networkType).countAt field = 0 := by
  refine List.countP_eq_zero.2 fun e he => ?_
  have hat := field_of_mem_incompatibilities c networkType he
  simpa [hat] using hfield.symm

theorem countAt_incompatibilities :
    (c.incompatibilities networkType).countAt .networkType =
      (c.incompatibilities networkType).length :=
  List.countP_eq_length.2 fun e he => by
    simpa using field_of_mem_incompatibilities c networkType he

theorem length_incompatibilities :
    (c.incompatibilities networkType).length =
      if networkType = NetworkType.openShiftSDN then
        (if HasIPv6 (c.ranges .cluster) then 1 else 0) +
          if HasIPv6 (c.ranges .service) then 1 else 0
      else 0 := by
  have hlist (p : Prop) [Decidable p] (label : String) :
      (if p then [incompatible label] else []).length = if p then 1 else 0 := by
    split <;> rfl
  unfold incompatibilities
  split
  · rw [List.length_append, hlist, hlist]
  · rfl

end InstallConfig

namespace Asset
variable {c : InstallConfig} {settings : Settings} {policy : DefaultsPolicy} {r : Resolution}

/-- What generating answers once the manifest is built is what the check says of it. -/
theorem result_generate_of_build (hbuild : Manifest.build c settings policy = .ok r) (a : Asset) :
    (a.generate (some c) settings policy).result =
      r.manifest.problems.toResult.mapError .invalidNetworkType := by
  obtain ⟨data, hencode⟩ := Manifest.exists_encode_of_build hbuild
  cases hproblems : r.manifest.problems with
  | nil => rw [generate_of_ok hbuild hencode (check_of_problems_eq_nil hproblems)]; rfl
  | cons problem problems => rw [generate_of_problems hbuild hencode hproblems]; rfl

/-- **The builder and the check agree.** Of a manifest that has been built, no range is reported as
malformed. Only the legacy plugin is reported, once for each checked list in which the configuration
has a range of IPv6. Generating succeeds if there is nothing to report, and otherwise it fails with
exactly these errors, in their order. -/
theorem generate_of_build (hbuild : Manifest.build c settings policy = .ok r) (a : Asset) :
    let problems := r.manifest.problems
    let result := (a.generate (some c) settings policy).result
    problems = c.incompatibilities r.manifest.networkType ∧
      problems.countAt .clusterNetwork = 0 ∧ problems.countAt .serviceNetwork = 0 ∧
      (problems.countAt .networkType =
        if r.manifest.networkType = NetworkType.openShiftSDN then
          (if HasIPv6 (c.ranges .cluster) then 1 else 0) +
            if HasIPv6 (c.ranges .service) then 1 else 0
        else 0) ∧
      (result = .ok () ↔ problems.countAt .networkType = 0) ∧
      (0 < problems.countAt .networkType ↔
        ∃ aggregate, result = .error (.invalidNetworkType aggregate)) ∧
      ∀ aggregate, result = .error (.invalidNetworkType aggregate) →
        aggregate.errors = problems := by
  intro problems result
  have hproblems : problems = c.incompatibilities r.manifest.networkType :=
    Manifest.problems_of_build hbuild
  have hresult : result = problems.toResult.mapError .invalidNetworkType :=
    result_generate_of_build hbuild a
  have hcount : problems.countAt .networkType = problems.length := by
    rw [hproblems, c.countAt_incompatibilities]
  refine ⟨hproblems, ?_, ?_, ?_, ?_⟩
  · rw [hproblems]
    exact c.countAt_incompatibilities_of_ne _ (by decide)
  · rw [hproblems]
    exact c.countAt_incompatibilities_of_ne _ (by decide)
  · rw [hcount, hproblems, c.length_incompatibilities]
  · rw [hcount, hresult]
    cases problems with
    | nil => simp [ErrorList.toResult]
    | cons e es => simp [ErrorList.toResult, AggregateError.errors]

/-- A configuration without a network type, and with ranges of both families. -/
def dualStackConfig : InstallConfig :=
  { InstallConfig.blank with
    controlPlane := some ⟨"master", some 1⟩
    networking := some ⟨"", [⟨"10.128.0.0/14", 23⟩, ⟨"FD01::/48", 64⟩], ["fd02:0::/112"], []⟩ }

/-- A policy that chooses the legacy plugin. -/
def legacyPolicy : DefaultsPolicy := fun c =>
  let n := c.networking.getD .blank
  { c with networking := some { n with networkType := NetworkType.openShiftSDN } }

theorem generate_of_build_dualStack : ∃ r aggregate,
    Manifest.build dualStackConfig .standard legacyPolicy = .ok r ∧
      (empty.generate (some dualStackConfig) .standard legacyPolicy).result =
        .error (.invalidNetworkType aggregate) ∧
      aggregate.errors = [incompatible "clusterNetwork", incompatible "serviceNetwork"] := by
  obtain ⟨r, hbuild, htype⟩ : ∃ r, Manifest.build dualStackConfig .standard legacyPolicy = .ok r ∧
      r.manifest.networkType = NetworkType.openShiftSDN := by decide +kernel
  have hranges : HasIPv6 (dualStackConfig.ranges .cluster) ∧
      HasIPv6 (dualStackConfig.ranges .service) := by decide +kernel
  obtain ⟨hproblems, -, -, hcount, -, hfails, herrors⟩ := generate_of_build hbuild empty
  obtain ⟨aggregate, haggregate⟩ := hfails.1 (by simp [hcount, htype, hranges])
  refine ⟨r, aggregate, hbuild, haggregate, ?_⟩
  rw [herrors aggregate haggregate, hproblems]
  simp [InstallConfig.incompatibilities, htype, hranges]

end Asset
end InstallManifest
