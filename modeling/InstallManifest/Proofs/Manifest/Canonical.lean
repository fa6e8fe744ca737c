import InstallManifest.Proofs.Config.Defaults
import InstallManifest.Proofs.Manifest.Validation

/-!
# Ranges are carried over in their one form

The builder reads every range of a configuration and writes it in its one form. Nothing else of it
changes, host bits included: it denotes the same range, in the same place of the same list, and the
one form of the one form is that form again. So a configuration that is rewritten with the ranges of
its own manifest is built into the same manifest (`Manifest.build_canonical`), as long as whoever
supplies a network type does not look at the ranges (`IgnoresRanges`).
-/
namespace InstallManifest
open Net

/-! ## Other texts for the ranges -/

namespace InstallConfig

/-- The networking section with other texts for its ranges, entry by entry. -/
def Networking.withRanges (n : Networking) (texts : RangeList → List String) : Networking where
  networkType := n.networkType
  clusterNetwork := List.zipWith ClusterRange.withCidr n.clusterNetwork (texts .cluster)
  serviceNetwork := texts .service
  machineNetwork := List.zipWith MachineRange.withCidr n.machineNetwork (texts .machine)

/-- The configuration with other texts for its ranges; without a networking section it has none. -/
def withRanges (c : InstallConfig) (texts : RangeList → List String) : InstallConfig :=
  { c with networking := c.networking.map (·.withRanges texts) }

theorem networkType?_withRanges (c : InstallConfig) (texts : RangeList → List String) :
    (c.withRanges texts).networkType? = c.networkType? := by
  unfold networkType? withRanges
  cases c.networking <;> rfl

end InstallConfig

/-- Whether the network type that a policy gives does not depend on what the ranges are. -/
def IgnoresRanges (policy : DefaultsPolicy) : Prop :=
  ∀ (c : InstallConfig) (texts : RangeList → List String),
    (∀ list, (texts list).length = (c.ranges list).length) →
      (policy (c.withRanges texts)).networkType? = (policy c).networkType?

theorem Defaults.ignoresRanges_installer : IgnoresRanges installer := by
  intro c texts _
  rw [networkType?_installer, networkType?_installer, c.networkType?_withRanges]

namespace Manifest

/-! ## Building again -/

namespace Build

/-- Entries that are given the texts of their one forms are those one forms, and are kept as they
are. -/
theorem forall₂_zipWith_canonical {α : Type} {list : RangeList} {get : α → String}
    {set : α → String → α} {xs ys : List α} (hget : ∀ x text, get (set x text) = text)
    (hset : ∀ x text, set (set x text) text = set x text)
    (h : List.Forall₂ (fun x y => ∃ range, list.parse (get x) = .ok range ∧ set x range.text = y)
      xs ys) :
    List.Forall₂ (fun x y => ∃ range, list.parse (get x) = .ok range ∧ set x range.text = y)
      (List.zipWith set xs (ys.map get)) ys := by
  induction h with
  | nil => exact .nil
  | cons hxy _ ih =>
    obtain ⟨range, hrange, rfl⟩ := hxy
    refine .cons ⟨range, ?_, ?_⟩ ih
    · rw [hget, hget]
      exact RangeList.parse_text hrange
    · rw [hget, hset]

/-- **A networking part is also built of its own ranges.** -/
theorem networking_withRanges {n : InstallConfig.Networking} {m : Networking}
    (h : networking n = .ok m) : networking (n.withRanges m.ranges) = .ok m := by
  obtain ⟨hclusters, hservices, hmachines, hrest⟩ := networking_eq_ok_iff.1 h
  have hservicesAgain : List.Forall₂ (fun text form => ∃ range,
      RangeList.service.parse text = .ok range ∧ range.text = form)
      m.serviceNetwork m.serviceNetwork :=
    List.forall₂_same.2 fun form hform => exists_range_of_mem h hform
  exact networking_eq_ok_iff.2
    ⟨forall₂_zipWith_canonical (fun _ _ => rfl) (fun _ _ => rfl) hclusters, hservicesAgain,
      forall₂_zipWith_canonical (fun _ _ => rfl) (fun _ _ => rfl) hmachines, hrest⟩

theorem draft_withRanges {c : InstallConfig} {texts : RangeList → List String}
    (h : networking ((c.withRanges texts).networking.getD .blank) =
      networking (c.networking.getD .blank)) (settings : Settings) :
    draft (c.withRanges texts) settings = draft c settings := by
  unfold draft
  rw [h]
  rfl

end Build

variable {c : InstallConfig} {settings : Settings} {policy : DefaultsPolicy} {r : Resolution}

/-- The ranges of a manifest that has been built are those of its networking part. -/
theorem exists_ranges_of_build (h : build c settings policy = .ok r) :
    ∃ n, Build.networking (c.networking.getD .blank) = .ok n ∧
      r.manifest.spec.networking.ranges = n.ranges ∧
      r.manifest.spec.networking.clusterNetwork = n.clusterNetwork := by
  obtain ⟨n, hn, hnetworking⟩ := exists_networking_of_build h
  refine ⟨n, hn, ?_, ?_⟩
  · funext list
    rw [hnetworking]
    cases list <;> rfl
  · rw [hnetworking]

theorem build_withRanges (hpolicy : IgnoresRanges policy) (h : build c settings policy = .ok r) :
    build (c.withRanges r.manifest.spec.networking.ranges) settings policy = .ok r := by
  obtain ⟨n, hn, hranges, -⟩ := exists_ranges_of_build h
  rw [hranges]
  have hnetworking : Build.networking ((c.withRanges n.ranges).networking.getD .blank) =
      Build.networking (c.networking.getD .blank) := by
    cases hsection : c.networking with
    | none => rw [InstallConfig.withRanges, hsection]; rfl
    | some given =>
      rw [hsection] at hn
      rw [InstallConfig.withRanges, hsection]
      exact (Build.networking_withRanges hn).trans hn.symm
  have hlength (list : RangeList) : (n.ranges list).length = (c.ranges list).length :=
    (Build.networking_ranges hn list).length_eq.symm
  have hresolve (m : Manifest) :
      m.resolve (some (c.withRanges n.ranges)) policy = m.resolve (some c) policy :=
    resolve_congr (c.networkType?_withRanges n.ranges) (fun _ => hpolicy c n.ranges hlength) m
  rw [build, Build.draft_withRanges hnetworking]
  simp only [hresolve]
  exact h

/-- **A manifest carries the ranges of its configuration**, list by list and in order. Each one is
written in its one form and denotes the range that the configuration's own text denotes: the same
address, host bits included, with the same prefix length. Host prefixes are kept, and every range
for pods is a subnet. To put the ranges of the manifest into the configuration makes no difference,
unless the policy chooses a network type by the ranges. -/
theorem build_canonical (h : build c settings policy = .ok r) :
    let n := r.manifest.spec.networking
    (∀ list, List.Forall₂ (fun text form => ∃ range, Cidr.parse text = .ok range ∧
      Cidr.parse form = .ok range ∧ range.text = form) (c.ranges list) (n.ranges list)) ∧
    (c.networking = none → ∀ list, n.ranges list = []) ∧
    n.clusterNetwork.map (·.hostPrefix) =
      (c.networking.getD .blank).clusterNetwork.map (·.hostPrefix) ∧
    (∀ text ∈ n.ranges .cluster, ∃ range, Cidr.parseSubnet text = .ok range) ∧
    (IgnoresRanges policy → build (c.withRanges n.ranges) settings policy = .ok r) := by
  intro n
  obtain ⟨m, hm, hranges, hclusters⟩ := exists_ranges_of_build h
  have hforms (list : RangeList) := Build.networking_ranges hm list
  refine ⟨fun list => ?_, fun hnone list => ?_, ?_, fun text htext => ?_,
    fun hpolicy => build_withRanges hpolicy h⟩
  · show List.Forall₂ _ _ (r.manifest.spec.networking.ranges list)
    rw [hranges]
    refine (hforms list).imp fun text form hform => ?_
    obtain ⟨range, hrange, rfl⟩ := hform
    exact ⟨range, (RangeList.parse_eq_ok_iff.1 hrange).1, Cidr.parse_text range, rfl⟩
  · show r.manifest.spec.networking.ranges list = []
    rw [hnone] at hforms
    rw [hranges, List.eq_nil_iff_length_eq_zero, ← (hforms list).length_eq]
    cases list <;> rfl
  · show r.manifest.spec.networking.clusterNetwork.map _ = _
    rw [hclusters]
    exact (Build.networking_rest hm).1
  · have hform : text ∈ m.ranges .cluster := by rwa [← hranges]
    obtain ⟨range, hrange, -⟩ := Build.exists_range_of_mem hm hform
    exact ⟨range, hrange⟩

/-- A configuration with ranges of both families, none of them in its one form. -/
def looseConfig : InstallConfig :=
  { InstallConfig.blank with
    controlPlane := some ⟨"master", some 1⟩
    networking := some ⟨"", [⟨"010.128.0.0/14", 23⟩, ⟨"FD01:0::/48", 64⟩],
      ["172.30.0.1/16", "0:0::FFFF:a00:0/104"], [⟨"10.0.0.05/24"⟩, ⟨"fd02::0:1/064"⟩]⟩ }

theorem build_canonical_loose : ∃ r, build looseConfig .standard Defaults.installer = .ok r ∧
    r.manifest.spec.networking.ranges .cluster = ["10.128.0.0/14", "fd01::/48"] ∧
    r.manifest.spec.networking.ranges .service = ["172.30.0.1/16", "::ffff:10.0.0.0/104"] ∧
    r.manifest.spec.networking.ranges .machine = ["10.0.0.5/24", "fd02::1/64"] ∧
    r.manifest.spec.networking.clusterNetwork.map (·.hostPrefix) = [23, 64] ∧
    build (looseConfig.withRanges r.manifest.spec.networking.ranges) .standard Defaults.installer =
      .ok r := by
  obtain ⟨r, hbuild, hcluster, hservice, hmachine⟩ :
      ∃ r, build looseConfig .standard Defaults.installer = .ok r ∧
        r.manifest.spec.networking.ranges .cluster = ["10.128.0.0/14", "fd01::/48"] ∧
        r.manifest.spec.networking.ranges .service = ["172.30.0.1/16", "::ffff:10.0.0.0/104"] ∧
        r.manifest.spec.networking.ranges .machine = ["10.0.0.5/24", "fd02::1/64"] := by
    decide +kernel
  obtain ⟨-, -, hprefixes, -, hagain⟩ := build_canonical hbuild
  exact ⟨r, hbuild, hcluster, hservice, hmachine, hprefixes,
    hagain Defaults.ignoresRanges_installer⟩

end Manifest
end InstallManifest
