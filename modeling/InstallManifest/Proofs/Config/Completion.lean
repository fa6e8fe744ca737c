import InstallManifest.Proofs.Config.Defaults

/-!
# The installer's defaults complete a configuration

What is not set is told by an absent part, an empty text or an empty list, and each of these may be
found at each place. Whatever the combination, the defaults keep what is set
(`InstallConfig.IsKeptBy`) and leave nothing open that they know about (`InstallConfig.IsFull`). The
configurations that they leave alone are exactly the full ones (`Defaults.installer_eq_self_iff`),
and this is why they have nothing to do the second time.
-/
namespace InstallManifest
namespace InstallConfig

/-! ## What is kept -/

/-- Whether a pool has what another one has set. No machines at all are a number of machines. -/
structure MachinePool.IsKeptBy (p q : MachinePool) : Prop where
  name : q.name = p.name
  replicas : ∀ n, p.replicas = some n → q.replicas = some n

/-- Whether a networking section has what another one has set. A list with entries is kept as it is,
entry by entry. -/
structure Networking.IsKeptBy (n n' : Networking) : Prop where
  networkType : n.networkType ≠ "" → n'.networkType = n.networkType
  clusterNetwork : n.clusterNetwork ≠ [] → n'.clusterNetwork = n.clusterNetwork
  serviceNetwork : n.serviceNetwork ≠ [] → n'.serviceNetwork = n.serviceNetwork
  machineNetwork : n.machineNetwork ≠ [] → n'.machineNetwork = n.machineNetwork

/-- **Whether a configuration has everything that another one has set**, and differs from it at most
in the three parts that have defaults. -/
structure IsKeptBy (c d : InstallConfig) : Prop where
  networking : ∀ n, c.networking = some n → ∃ n', d.networking = some n' ∧ n.IsKeptBy n'
  controlPlane : ∀ p, c.controlPlane = some p → ∃ q, d.controlPlane = some q ∧ p.IsKeptBy q
  /-- Pools of workers are neither added nor left out nor put in another order, if there are any. -/
  compute : c.compute ≠ [] → List.Forall₂ MachinePool.IsKeptBy c.compute d.compute
  rest : d = { c with
    networking := d.networking, controlPlane := d.controlPlane, compute := d.compute }

/-- **A configuration without gaps**: besides what a manifest has to say, it has workers, and ranges
in every list. -/
structure IsFull (c : InstallConfig) : Prop extends IsComplete c where
  workers : c.compute ≠ []
  ranges : ∀ list, c.ranges list ≠ []

theorem exists_of_networkType? {c : InstallConfig} {t : String} (h : c.networkType? = some t) :
    ∃ n, c.networking = some n ∧ n.networkType = t := by
  obtain ⟨hmap, -⟩ := Option.filter_eq_some_iff.1 h
  exact Option.map_eq_some_iff.1 hmap

theorem exists_of_controlPlaneReplicas? {c : InstallConfig} {k : UInt32}
    (h : c.controlPlaneReplicas? = some k) :
    ∃ p, c.controlPlane = some p ∧ p.replicas = some k :=
  Option.bind_eq_some_iff.1 h

end InstallConfig

namespace Defaults
open InstallConfig

/-! ## Lists, pools and sections -/

theorem nonempty_ne_nil {α : Type} (default : α) (l : List α) : nonempty default l ≠ [] := by
  cases l with
  | nil => simp [nonempty]
  | cons x l => simp [nonempty]

theorem nonempty_eq_self {α : Type} {default : α} {l : List α} (h : l ≠ []) :
    nonempty default l = l := by
  cases l with
  | nil => contradiction
  | cons x l => rfl

theorem isKeptBy_pool (p : MachinePool) : p.IsKeptBy (pool p) where
  name := rfl
  replicas n hn := by simp [pool, hn]

theorem pool_eq_self {p : MachinePool} (h : ∃ n, p.replicas = some n) : pool p = p := by
  obtain ⟨name, replicas⟩ := p
  obtain ⟨n, rfl⟩ := h
  rfl

theorem map_pool_eq_self {pools : List MachinePool} (h : ∀ p ∈ pools, ∃ n, p.replicas = some n) :
    pools.map pool = pools :=
  calc
    pools.map pool = pools.map id := List.map_congr_left fun p hp => pool_eq_self (h p hp)
    _ = pools := List.map_id pools

theorem isKeptBy_networking (n : Networking) : n.IsKeptBy (networking n) where
  networkType h := if_neg h
  clusterNetwork := nonempty_eq_self
  serviceNetwork := nonempty_eq_self
  machineNetwork := nonempty_eq_self

/-! ## Whole configurations -/

variable (c : InstallConfig)

theorem compute_installer {c : InstallConfig} (h : c.compute ≠ []) :
    (installer c).compute = c.compute.map pool :=
  congrArg (List.map pool) (nonempty_eq_self h)

theorem isKeptBy_installer : c.IsKeptBy (installer c) where
  networking n hn := by
    refine ⟨networking n, ?_, isKeptBy_networking n⟩
    simp [installer, hn]
  controlPlane p hp := by
    refine ⟨pool p, ?_, isKeptBy_pool p⟩
    simp [installer, hp]
  compute h := by
    rw [compute_installer h, List.forall₂_map_right_iff]
    exact List.forall₂_same.2 fun p _ => isKeptBy_pool p
  rest := rfl

theorem isFull_installer : (installer c).IsFull where
  toIsComplete := isComplete_installer c
  workers := by
    intro h
    exact nonempty_ne_nil _ c.compute (List.map_eq_nil_iff.1 h)
  ranges list := by
    rw [ranges_installer]
    exact nonempty_ne_nil _ _

theorem networking_eq_self {n : Networking} (htype : n.networkType ≠ "")
    (hranges : ∀ list, n.ranges list ≠ []) : networking n = n := by
  have hcluster : n.clusterNetwork ≠ [] := by
    intro h
    exact hranges .cluster (List.map_eq_nil_iff.2 h)
  have hservice : n.serviceNetwork ≠ [] := hranges .service
  have hmachine : n.machineNetwork ≠ [] := by
    intro h
    exact hranges .machine (List.map_eq_nil_iff.2 h)
  simp only [networking, if_neg htype, nonempty_eq_self hcluster, nonempty_eq_self hservice,
    nonempty_eq_self hmachine]

/-- **The defaults leave a configuration alone exactly if it is full.** -/
theorem installer_eq_self_iff {c : InstallConfig} : installer c = c ↔ c.IsFull := by
  constructor
  · intro h
    rw [← h]
    exact isFull_installer c
  · intro h
    obtain ⟨t, ht⟩ := h.networkType
    have hne : t ≠ "" := Manifest.ne_empty_of_networkType? ht
    obtain ⟨n, hn, rfl⟩ := exists_of_networkType? ht
    obtain ⟨k, hk⟩ := h.controlPlane
    obtain ⟨p, hp, hcount⟩ := exists_of_controlPlaneReplicas? hk
    have hranges (list : RangeList) : n.ranges list ≠ [] := by
      simpa [InstallConfig.ranges, hn] using h.ranges list
    have hnetworking : networking (c.networking.getD .blank) = n := by
      rw [hn]
      exact networking_eq_self hne hranges
    have hcontrol : pool (c.controlPlane.getD ⟨"master", some replicas⟩) = p := by
      rw [hp]
      exact pool_eq_self ⟨k, hcount⟩
    have hcompute : (nonempty ⟨"worker", some replicas⟩ c.compute).map pool = c.compute := by
      rw [nonempty_eq_self h.workers]
      exact map_pool_eq_self h.compute
    rw [installer, hnetworking, hcontrol, hcompute, ← hn, ← hp]

/-- **The installer's defaults complete a configuration**, and do so once and for all. Everything
that is set is kept: network type, ranges, names and numbers of machines, and all that has no
defaults. Nothing is left open: there is a network type, every list has a range, and there are a
control plane and workers, all of which say how many machines they have. -/
theorem installer_completes :
    c.IsKeptBy (installer c) ∧ (installer c).IsFull ∧ installer (installer c) = installer c :=
  ⟨isKeptBy_installer c, isFull_installer c, installer_eq_self_iff.2 (isFull_installer c)⟩

end Defaults
end InstallManifest
