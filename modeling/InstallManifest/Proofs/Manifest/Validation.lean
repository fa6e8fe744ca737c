import InstallManifest.Manifest.Validation
import InstallManifest.Proofs.Manifest.Build
import InstallManifest.Proofs.Manifest.Ranges

/-!
# What is wrong with a manifest

The errors of a list of ranges are determined by two facts: how many of its texts are no ranges, and
whether there is a range of IPv6 among the others (`Validation.rangeErrors_eq`). So neither kind of
range hides the other, and the order of the ranges does not matter (`Manifest.problems_exact`).

Of a manifest that has been built, the check reads texts that the builder has written. It can read
all of them, and finds the families that the user's own texts have. So nothing can be wrong but that
the legacy plugin is asked for ranges of IPv6 (`Manifest.problems_of_build`).
-/
namespace InstallManifest
open Net

namespace Validation

/-- Whether a range of IPv6 is among some texts. -/
def HasIPv6 (ranges : List String) : Prop := ∃ text ∈ ranges, Cidr.classify text = .ok .ipv6

theorem hasIPv6_iff {ranges : List String} :
    HasIPv6 ranges ↔ .ok .ipv6 ∈ ranges.map Cidr.classify := by simp [HasIPv6]

instance : DecidablePred HasIPv6 := fun ranges =>
  inferInstanceAs (Decidable (∃ text ∈ ranges, Cidr.classify text = .ok .ipv6))

/-- The error of a list of ranges that the legacy plugin does not know. -/
def incompatible (label : String) : FieldError :=
  ⟨.required, .networkType, label ++ " CIDR is IPv6 and is not compatible with networkType " ++
    NetworkType.openShiftSDN⟩

/-- Whether a text is no range. -/
def IsMalformed (text : String) : Prop := ∃ e, Cidr.parse text = .error e

instance : DecidablePred IsMalformed := fun text =>
  inferInstanceAs (Decidable (∃ e, Cidr.parse text = .error e))

/-- The error of a text that is no range. -/
def malformed (field : FieldPath) (label : String) : FieldError :=
  ⟨.required, field, "error parsing the " ++ label ++ " CIDR"⟩

theorem isMalformed_iff (text : String) :
    IsMalformed text ↔ ∃ e, Cidr.classify text = .error e := by
  unfold IsMalformed Cidr.classify
  cases Cidr.parse text <;> simp [Except.map]

/-- A text that is no range has an error, whatever stands in front of it and behind it. -/
theorem filterMap_malformed (e : FieldError) (ranges : List String) :
    ((ranges.map Cidr.classify).filterMap fun
      | .ok _ => none
      | .error _ => some e) = List.replicate (ranges.countP IsMalformed) e := by
  induction ranges with
  | nil => rfl
  | cons text ranges ih =>
    rw [List.map_cons, List.countP_cons]
    cases hfamily : Cidr.classify text with
    | ok family =>
      have hread : ¬ IsMalformed text := by simp [isMalformed_iff, hfamily]
      simpa [List.filterMap_cons, hread] using ih
    | error cause =>
      have hmalformed : IsMalformed text := (isMalformed_iff text).2 ⟨cause, hfamily⟩
      simpa [List.filterMap_cons, hmalformed, List.replicate_succ] using ih

/-- **The errors of a list of ranges**: as many as it has texts that are no ranges, and one more
if there is a range of IPv6. -/
theorem rangeErrors_eq (field : FieldPath) (label : String) (ranges : List String) :
    rangeErrors field label ranges =
      List.replicate (ranges.countP IsMalformed) (malformed field label) ++
        if HasIPv6 ranges then [incompatible label] else [] := by
  refine congrArg₂ (· ++ ·) (filterMap_malformed _ ranges) (if_congr ?_ rfl rfl)
  rw [List.any_map, List.any_eq_true]
  refine exists_congr fun text => and_congr_right fun _ => ?_
  cases hfamily : Cidr.classify text with
  | ok family => cases family <;> simp [hfamily, Family.isIPv6]
  | error e => simp [hfamily]

/-- Ranges that can all be read have no error but that of their family. -/
theorem rangeErrors_of_classify {ranges : List String}
    (h : ∀ text ∈ ranges, ∃ family, Cidr.classify text = .ok family) (field : FieldPath)
    (label : String) :
    rangeErrors field label ranges = if HasIPv6 ranges then [incompatible label] else [] := by
  have hnone : ranges.countP IsMalformed = 0 := by
    refine List.countP_eq_zero.2 fun text htext => ?_
    obtain ⟨family, hfamily⟩ := h text htext
    simp [isMalformed_iff, hfamily]
  rw [rangeErrors_eq, hnone]
  rfl

/-- The order of the ranges does not matter. -/
theorem rangeErrors_of_perm {ranges ranges' : List String} (h : ranges'.Perm ranges)
    (field : FieldPath) (label : String) :
    rangeErrors field label ranges' = rangeErrors field label ranges := by
  have hIPv6 : HasIPv6 ranges' ↔ HasIPv6 ranges :=
    exists_congr fun text => and_congr_left fun _ => h.mem_iff
  rw [rangeErrors_eq, rangeErrors_eq, h.countP_eq]
  exact congrArg _ (if_congr hIPv6 rfl rfl)

end Validation

namespace Manifest
open Validation

/-- Only the legacy plugin restricts the ranges. -/
theorem problems_of_ne {m : Manifest} (h : m.networkType ≠ NetworkType.openShiftSDN) :
    m.problems = [] := if_neg h

/-! ## Any manifest -/

theorem problems_eq (m : Manifest) :
    m.problems =
      if m.networkType = NetworkType.openShiftSDN then
        rangeErrors .clusterNetwork "clusterNetwork" (m.spec.networking.ranges .cluster) ++
          rangeErrors .serviceNetwork "serviceNetwork" (m.spec.networking.ranges .service)
      else [] := rfl

/-- **What is wrong with a manifest.** Only the legacy plugin restricts the ranges. With it, the
errors of the cluster ranges come first and those of the service ranges behind them. Of each of the
two lists, every text that is no range is an error at the list, and behind these there is one error
at the network type if there is a range of IPv6. So nothing changes when the ranges of a list are
put in another order, or when anything else in the manifest does than the network type and these
ranges. -/
theorem problems_exact (m : Manifest) :
    let cluster := m.spec.networking.ranges .cluster
    let service := m.spec.networking.ranges .service
    (m.problems =
      if m.networkType = NetworkType.openShiftSDN then
        List.replicate (cluster.countP IsMalformed) (malformed .clusterNetwork "clusterNetwork") ++
        (if HasIPv6 cluster then [incompatible "clusterNetwork"] else []) ++
        List.replicate (service.countP IsMalformed) (malformed .serviceNetwork "serviceNetwork") ++
        (if HasIPv6 service then [incompatible "serviceNetwork"] else [])
      else []) ∧
    ∀ m' : Manifest, m'.networkType = m.networkType →
      (m'.spec.networking.ranges .cluster).Perm cluster →
      (m'.spec.networking.ranges .service).Perm service → m'.problems = m.problems := by
  intro cluster service
  constructor
  · rw [problems_eq, rangeErrors_eq, rangeErrors_eq, List.append_assoc, List.append_assoc,
      List.append_assoc]
  · intro m' htype hcluster hservice
    rw [problems_eq, problems_eq, htype, rangeErrors_of_perm hcluster,
      rangeErrors_of_perm hservice]

/-- A manifest for the legacy plugin, with ranges that cannot be read and ranges of IPv6. -/
def tangled : Manifest :=
  { blank with
    spec := { Spec.blank with
      networking := { Networking.blank with
        networkType := NetworkType.openShiftSDN
        clusterNetwork := [⟨"bogus", 23⟩, ⟨"fd01::/48", 64⟩, ⟨"10.0.0.0/99", 23⟩]
        serviceNetwork := ["172.30.0.0/16", "fd02::/112"] } } }

/-- Another manifest with these ranges, in another order. -/
def untangled : Manifest :=
  { tangled with
    kind := objectKind
    spec := { tangled.spec with
      sshPublicKey := "ssh-rsa AAAA"
      networking := { tangled.spec.networking with
        clusterNetwork := [⟨"fd01::/48", 32⟩, ⟨"10.0.0.0/99", 8⟩, ⟨"bogus", 0⟩]
        serviceNetwork := ["fd02::/112", "172.30.0.0/16"] } } }

theorem problems_exact_untangled :
    untangled.problems =
      [malformed .clusterNetwork "clusterNetwork", malformed .clusterNetwork "clusterNetwork",
        incompatible "clusterNetwork", incompatible "serviceNetwork"] := by
  have hproblems : tangled.problems =
      [malformed .clusterNetwork "clusterNetwork", malformed .clusterNetwork "clusterNetwork",
        incompatible "clusterNetwork", incompatible "serviceNetwork"] := by
    decide +kernel
  rw [← hproblems]
  exact (problems_exact tangled).2 untangled rfl (by decide) (by decide)

/-! ## A manifest that has been built -/

variable {c : InstallConfig} {settings : Settings} {policy : DefaultsPolicy} {r : Resolution}

/-- The networking part of a manifest that has been built, up to its network type. -/
theorem exists_networking_of_build (h : build c settings policy = .ok r) :
    ∃ n, Build.networking (c.networking.getD .blank) = .ok n ∧
      r.manifest.spec.networking = { n with networkType := r.manifest.networkType } := by
  obtain ⟨m, t, api, ingress, hm, -, hmanifest⟩ := exists_draft_of_build h
  obtain ⟨control, workers, n, -, -, hn, rfl⟩ := Build.exists_of_draft hm
  refine ⟨n, hn, ?_⟩
  rw [hmanifest]
  rfl

/-- **What can be wrong with a manifest that has been built**: its network type is that of the
legacy plugin, and the configuration has ranges of IPv6. -/
theorem problems_of_build (h : build c settings policy = .ok r) :
    r.manifest.problems =
      if r.manifest.networkType = NetworkType.openShiftSDN then
        (if HasIPv6 (c.ranges .cluster) then [incompatible "clusterNetwork"] else []) ++
          if HasIPv6 (c.ranges .service) then [incompatible "serviceNetwork"] else []
      else [] := by
  obtain ⟨n, hn, hnetworking⟩ := exists_networking_of_build h
  have herrors (list : RangeList) (field : FieldPath) (label : String) :
      rangeErrors field label (n.ranges list) =
        if HasIPv6 (c.ranges list) then [incompatible label] else [] := by
    have hsame : HasIPv6 (n.ranges list) ↔ HasIPv6 (c.ranges list) := by
      rw [hasIPv6_iff, hasIPv6_iff, Build.classify_ranges hn list]
      rfl
    rw [rangeErrors_of_classify fun form hform => ?_]
    · exact if_congr hsame rfl rfl
    · obtain ⟨range, -, rfl⟩ := Build.exists_range_of_mem hn hform
      exact ⟨_, Cidr.classify_text range⟩
  -- For another plugin than the legacy one, the check does not look at the ranges.
  have hproblems : r.manifest.problems =
      if r.manifest.networkType = NetworkType.openShiftSDN then
        rangeErrors .clusterNetwork "clusterNetwork" (n.ranges .cluster) ++
          rangeErrors .serviceNetwork "serviceNetwork" (n.ranges .service)
      else [] := by
    simp only [problems, hnetworking, Networking.ranges]
  rw [hproblems, herrors, herrors]

theorem problems_eq_nil_iff (h : build c settings policy = .ok r) :
    r.manifest.problems = [] ↔ ¬ (r.manifest.networkType = NetworkType.openShiftSDN ∧
      (HasIPv6 (c.ranges .cluster) ∨ HasIPv6 (c.ranges .service))) := by
  rw [problems_of_build h]
  by_cases htype : r.manifest.networkType = NetworkType.openShiftSDN
  · by_cases hcluster : HasIPv6 (c.ranges .cluster) <;>
      by_cases hservice : HasIPv6 (c.ranges .service) <;> simp [htype, hcluster, hservice]
  · simp [htype]

end Manifest
end InstallManifest
