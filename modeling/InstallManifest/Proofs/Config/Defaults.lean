import InstallManifest.Proofs.Manifest.Ranges
import InstallManifest.Proofs.Manifest.Validation

/-!
# What the installer's defaults supply

A completed configuration has a network type and a number of machines for every pool
(`InstallConfig.IsComplete`), and ranges in every list. What was set is kept, and what is supplied
fits it: the defaults have no part in whether a manifest can be made of a configuration
(`Defaults.isInstallable_installer`).
-/
namespace InstallManifest
open Validation

namespace InstallConfig

/-- A configuration that leaves nothing open which a manifest has to say. -/
structure IsComplete (c : InstallConfig) : Prop where
  controlPlane : ∃ n, c.controlPlaneReplicas? = some n
  compute : ∀ p ∈ c.compute, ∃ n, p.replicas = some n
  networkType : ∃ t, c.networkType? = some t

/-- **A configuration that a valid manifest can be made of**: its ranges can be read, each in the
way of its list, and the legacy plugin is not asked for ranges of IPv6. -/
structure IsInstallable (c : InstallConfig) : Prop where
  readable : ∀ list, ∀ text ∈ c.ranges list, ∃ range, list.parse text = .ok range
  compatible : ¬ (c.networkType? = some NetworkType.openShiftSDN ∧
    (HasIPv6 (c.ranges .cluster) ∨ HasIPv6 (c.ranges .service)))

instance : DecidablePred IsInstallable := fun c =>
  decidable_of_iff
    ((∀ list, ∀ text ∈ c.ranges list, ∃ range, list.parse text = .ok range) ∧
      ¬ (c.networkType? = some NetworkType.openShiftSDN ∧
        (HasIPv6 (c.ranges .cluster) ∨ HasIPv6 (c.ranges .service))))
    ⟨fun h => ⟨h.1, h.2⟩, fun h => ⟨h.readable, h.compatible⟩⟩

/-- Why no valid manifest can be made of a configuration: a range that it has cannot be read, or the
legacy plugin is asked for ranges of IPv6. -/
inductive Refuses (c : InstallConfig) : ManifestError → Prop
  | range {list : RangeList} {text : String} {cause : Net.CidrError} (htext : text ∈ c.ranges list)
      (hfail : list.parse text = .error cause) : Refuses c (.invalidRange list text cause)
  | networkType (problems : AggregateError)
      (htype : c.networkType? = some NetworkType.openShiftSDN)
      (hranges : HasIPv6 (c.ranges .cluster) ∨ HasIPv6 (c.ranges .service)) :
      Refuses c (.invalidNetworkType problems)

theorem Refuses.not_isInstallable {c : InstallConfig} {e : ManifestError} (h : c.Refuses e) :
    ¬ c.IsInstallable := by
  intro hc
  cases h with
  | range htext hfail =>
    obtain ⟨r, hr⟩ := hc.readable _ _ htext
    rw [hfail] at hr
    cases hr
  | networkType problems htype hranges => exact hc.compatible ⟨htype, hranges⟩

end InstallConfig

namespace Defaults

/-- The text of the default range of a list. -/
def range : RangeList → String
  | .cluster => clusterRange.cidr
  | .service => serviceRange
  | .machine => machineRange.cidr

theorem map_nonempty {α β : Type} (f : α → β) (default : α) (l : List α) :
    (nonempty default l).map f = nonempty (f default) (l.map f) := by
  cases l <;> rfl

/-- What holds of the default entry holds of a completed list if it holds of what was given. -/
theorem forall_mem_nonempty_iff {α : Type} {p : α → Prop} {default : α} (hdefault : p default)
    {l : List α} : (∀ x ∈ nonempty default l, p x) ↔ ∀ x ∈ l, p x := by
  cases l with
  | nil => simpa [nonempty] using hdefault
  | cons y l => rfl

variable (c : InstallConfig)

/-! ## What is supplied -/

theorem ranges_installer (list : RangeList) :
    (installer c).ranges list = nonempty (range list) (c.ranges list) := by
  cases list with
  | cluster => exact map_nonempty _ _ _
  | service => rfl
  | machine => exact map_nonempty _ _ _

theorem networkType?_installer :
    (installer c).networkType? = some (c.networkType?.getD NetworkType.ovnKubernetes) := by
  cases hn : c.networking with
  | none => simp [InstallConfig.networkType?, installer, networking, hn,
      InstallConfig.Networking.blank, NetworkType.ovnKubernetes]
  | some n =>
    by_cases ht : n.networkType = ""
    · have hunset : c.networkType? = none := by
        simp [InstallConfig.networkType?, hn, ht, Option.filter]
      rw [hunset]
      simp [InstallConfig.networkType?, installer, networking, hn, ht, NetworkType.ovnKubernetes]
    · have hset : c.networkType? = some n.networkType := by
        simp [InstallConfig.networkType?, hn, ht]
      rw [hset]
      simp [InstallConfig.networkType?, installer, networking, hn, ht]

theorem isComplete_installer : (installer c).IsComplete where
  controlPlane := ⟨_, rfl⟩
  compute p hp := by
    obtain ⟨q, -, rfl⟩ := List.mem_map.1 hp
    exact ⟨_, rfl⟩
  networkType := ⟨_, networkType?_installer c⟩

/-! ## What is supplied fits -/

/-- Every default range can be read in the way of its list, and is in its one form. -/
theorem exists_parse_range (list : RangeList) :
    ∃ r, list.parse (range list) = .ok r ∧ r.text = range list := by
  cases list with
  | cluster => exact ⟨_, rfl, by decide +kernel⟩
  | service => exact ⟨_, rfl, by decide +kernel⟩
  | machine => exact ⟨_, rfl, by decide +kernel⟩

/-- No default range is of IPv6. -/
theorem classify_range_ne (list : RangeList) :
    Net.Cidr.classify (range list) ≠ .ok .ipv6 := by
  cases list <;> decide

theorem hasIPv6_installer_iff (list : RangeList) :
    HasIPv6 ((installer c).ranges list) ↔ HasIPv6 (c.ranges list) := by
  have hnone : (∀ text ∈ (installer c).ranges list, Net.Cidr.classify text ≠ .ok .ipv6) ↔
      ∀ text ∈ c.ranges list, Net.Cidr.classify text ≠ .ok .ipv6 := by
    rw [ranges_installer]
    refine forall_mem_nonempty_iff ?_
    exact classify_range_ne list
  rw [← not_iff_not]
  simpa only [HasIPv6, not_exists, not_and] using hnone

theorem networkType?_installer_eq_iff :
    (installer c).networkType? = some NetworkType.openShiftSDN ↔
      c.networkType? = some NetworkType.openShiftSDN := by
  rw [networkType?_installer]
  cases c.networkType? <;> simp [NetworkType.openShiftSDN, NetworkType.ovnKubernetes]

/-- **The defaults neither help nor harm**: a completed configuration is installable exactly if the
one that was given is. -/
theorem isInstallable_installer : (installer c).IsInstallable ↔ c.IsInstallable := by
  have hreadable : (∀ list, ∀ text ∈ (installer c).ranges list, ∃ r, list.parse text = .ok r) ↔
      ∀ list, ∀ text ∈ c.ranges list, ∃ r, list.parse text = .ok r := by
    refine forall_congr' fun list => ?_
    rw [ranges_installer]
    refine forall_mem_nonempty_iff ?_
    obtain ⟨r, hr, -⟩ := exists_parse_range list
    exact ⟨r, hr⟩
  have hcompatible : ((installer c).networkType? = some NetworkType.openShiftSDN ∧
      (HasIPv6 ((installer c).ranges .cluster) ∨ HasIPv6 ((installer c).ranges .service))) ↔
      (c.networkType? = some NetworkType.openShiftSDN ∧
        (HasIPv6 (c.ranges .cluster) ∨ HasIPv6 (c.ranges .service))) := by
    rw [networkType?_installer_eq_iff, hasIPv6_installer_iff, hasIPv6_installer_iff]
  constructor
  · exact fun h => ⟨hreadable.1 h.readable, fun hc => h.compatible (hcompatible.2 hc)⟩
  · exact fun h => ⟨hreadable.2 h.readable, fun hc => h.compatible (hcompatible.1 hc)⟩

theorem refuses_of_installer {c : InstallConfig} {e : ManifestError}
    (h : (installer c).Refuses e) : c.Refuses e := by
  cases h with
  | networkType problems htype hranges =>
    rw [hasIPv6_installer_iff, hasIPv6_installer_iff] at hranges
    exact .networkType problems ((networkType?_installer_eq_iff c).1 htype) hranges
  | @range list text cause htext hfail =>
    refine .range ?_ hfail
    by_contra hnot
    -- A range that was not given is the default one, which can be read.
    have hgiven : ∀ x ∈ (installer c).ranges list, x = range list ∨ x ∈ c.ranges list := by
      rw [ranges_installer]
      exact (forall_mem_nonempty_iff (.inl rfl)).2 fun x hx => .inr hx
    obtain rfl := (hgiven text htext).resolve_right hnot
    obtain ⟨r, hr, -⟩ := exists_parse_range list
    rw [hfail] at hr
    cases hr

end Defaults
end InstallManifest
