import InstallManifest.Proofs.Manifest.Build
import InstallManifest.Proofs.Manifest.Ranges

/-!
# What stands in the way of a manifest

A manifest says how many machines there are, where their addresses come from and which plugin
connects them. A configuration may fail to give each of these, and most of them more than once. Its
obstacles are listed in the order in which they are looked for (`InstallConfig.obstacles`). The
builder stops at the first one, and there is a manifest exactly if there is none
(`Manifest.build_outcome`).
-/
namespace InstallManifest

namespace InstallConfig

/-! ## Obstacles -/

/-- The control plane, if it does not say how many machines it has. It is called by the name of its
section if it has none of its own. -/
def controlPlaneObstacles (c : InstallConfig) : List ManifestError :=
  match c.controlPlane with
  | none => [.missingReplicas "controlPlane"]
  | some ⟨_, some _⟩ => []
  | some ⟨name, none⟩ => [.missingReplicas (if name = "" then "controlPlane" else name)]

/-- The pools of workers that do not say how many machines they have. -/
def poolObstacles (pools : List MachinePool) : List ManifestError :=
  (pools.filter (·.replicas.isNone)).map fun p => .missingReplicas p.name

/-- The ranges of a list that cannot be read in the way of the list. -/
def rangeObstacles (list : RangeList) (ranges : List String) : List ManifestError :=
  ranges.filterMap fun text => (Result.failure? (list.parse text)).map (.invalidRange list text)

/-- The network type, if neither the configuration has one nor what a policy makes of it. -/
def networkTypeObstacles (c : InstallConfig) (policy : DefaultsPolicy) : List ManifestError :=
  if c.networkType?.isNone ∧ (policy c).networkType?.isNone then [.unresolvedNetworkType] else []

/-- **Everything that stands in the way of a manifest**, in the order in which it is looked for. -/
def obstacles (c : InstallConfig) (policy : DefaultsPolicy) : List ManifestError :=
  c.controlPlaneObstacles ++ poolObstacles c.compute ++
    rangeObstacles .cluster (c.ranges .cluster) ++ rangeObstacles .service (c.ranges .service) ++
    rangeObstacles .machine (c.ranges .machine) ++ c.networkTypeObstacles policy

variable {c : InstallConfig} {policy : DefaultsPolicy}

theorem controlPlaneObstacles_eq_nil_iff :
    c.controlPlaneObstacles = [] ↔ ∃ n, c.controlPlaneReplicas? = some n := by
  unfold controlPlaneObstacles controlPlaneReplicas?
  rcases c.controlPlane with _ | ⟨name, _ | n⟩ <;> simp

theorem poolObstacles_eq_nil_iff {pools : List MachinePool} :
    poolObstacles pools = [] ↔ ∀ p ∈ pools, ∃ n, p.replicas = some n := by
  simp [poolObstacles, List.filter_eq_nil_iff, ← Option.isSome_iff_exists,
    ← Option.isSome_iff_ne_none]

theorem rangeObstacles_eq_nil_iff {list : RangeList} {ranges : List String} :
    rangeObstacles list ranges = [] ↔ ∀ text ∈ ranges, ∃ range, list.parse text = .ok range := by
  simp [rangeObstacles, List.filterMap_eq_nil_iff, Result.failure?_eq_none_iff]

theorem mem_rangeObstacles_iff {list : RangeList} {ranges : List String} {e : ManifestError} :
    e ∈ rangeObstacles list ranges ↔
      ∃ text ∈ ranges, ∃ cause, list.parse text = .error cause ∧
        e = .invalidRange list text cause := by
  simp only [rangeObstacles, List.mem_filterMap, Option.map_eq_some_iff,
    Result.failure?_eq_some_iff, eq_comm (b := e)]

theorem networkTypeObstacles_eq_nil_iff : c.networkTypeObstacles policy = [] ↔
    (∃ t, c.networkType? = some t) ∨ ∃ t, (policy c).networkType? = some t := by
  unfold networkTypeObstacles
  cases c.networkType? <;> cases (policy c).networkType? <;> simp

theorem obstacles_eq_nil_iff : c.obstacles policy = [] ↔
    (∃ n, c.controlPlaneReplicas? = some n) ∧
    (∀ p ∈ c.compute, ∃ n, p.replicas = some n) ∧
    (∀ list, ∀ text ∈ c.ranges list, ∃ range, list.parse text = .ok range) ∧
    ((∃ t, c.networkType? = some t) ∨ ∃ t, (policy c).networkType? = some t) := by
  have hlists : (∀ list, ∀ text ∈ c.ranges list, ∃ range, list.parse text = .ok range) ↔
      rangeObstacles .cluster (c.ranges .cluster) = [] ∧
      rangeObstacles .service (c.ranges .service) = [] ∧
      rangeObstacles .machine (c.ranges .machine) = [] := by
    rw [rangeObstacles_eq_nil_iff, rangeObstacles_eq_nil_iff, rangeObstacles_eq_nil_iff]
    constructor
    · exact fun h => ⟨h .cluster, h .service, h .machine⟩
    · rintro ⟨hcluster, hservice, hmachine⟩ list
      cases list <;> assumption
  rw [hlists, ← controlPlaneObstacles_eq_nil_iff, ← poolObstacles_eq_nil_iff,
    ← networkTypeObstacles_eq_nil_iff, obstacles]
  simp only [List.append_eq_nil_iff, and_assoc]

end InstallConfig

namespace Manifest
open InstallConfig Result

/-! ## The stages of the builder -/

namespace Build
variable {c : InstallConfig} {settings : Settings}

theorem failure?_controlPlaneAgents (c : InstallConfig) :
    failure? (controlPlaneAgents c) = c.controlPlaneObstacles.head? := by
  unfold controlPlaneAgents controlPlaneReplicas? controlPlaneObstacles
  rcases c.controlPlane with _ | ⟨name, _ | n⟩ <;> rfl

/-- However many machines have been counted, even if there is no greater number, the next pool that
does not say how many it has is an obstacle. -/
theorem failure?_workerAgents (total : UInt32) (pools : List MachinePool) :
    failure? (workerAgents total pools) = (poolObstacles pools).head? := by
  induction pools generalizing total with
  | nil => rfl
  | cons p pools ih =>
    obtain ⟨name, replicas⟩ := p
    cases replicas with
    | none => rfl
    | some n => exact ih (addSaturating total n)

theorem failure?_canonicalRange (list : RangeList) (text : String) :
    failure? (canonicalRange list text) =
      (failure? (list.parse text)).map (.invalidRange list text) := by
  rw [canonicalRange_eq, failure?_mapError, failure?_map]

/-- The entries of a list, in whatever part of them the text of the range stands. -/
theorem failure?_mapM_canonical {α : Type} (list : RangeList) (get : α → String)
    (set : α → String → α) (entries : List α) :
    failure? (entries.mapM fun x => do return set x (← canonicalRange list (get x))) =
      (rangeObstacles list (entries.map get)).head? := by
  rw [failure?_mapM, rangeObstacles, List.filterMap_map]
  refine congrArg (fun g => (entries.filterMap g).head?) (funext fun x => ?_)
  rw [failure?_bind_pure, failure?_canonicalRange]
  rfl

theorem failure?_networking (n : InstallConfig.Networking) :
    failure? (networking n) = (rangeObstacles .cluster (n.ranges .cluster) ++
      (rangeObstacles .service (n.ranges .service) ++
        rangeObstacles .machine (n.ranges .machine))).head? := by
  have hcluster := failure?_mapM_canonical .cluster (·.cidr) ClusterRange.withCidr n.clusterNetwork
  have hmachine := failure?_mapM_canonical .machine (·.cidr) MachineRange.withCidr n.machineNetwork
  have hservice : failure? (n.serviceNetwork.mapM (canonicalRange .service)) =
      (rangeObstacles .service n.serviceNetwork).head? := by
    rw [failure?_mapM]
    simp only [failure?_canonicalRange]
    rfl
  rw [networking_eq]
  refine failure?_bind hcluster fun _ _ => failure?_bind hservice fun _ _ => ?_
  rw [failure?_bind_pure]
  exact hmachine

theorem failure?_draft (c : InstallConfig) (settings : Settings) :
    failure? (draft c settings) = (c.controlPlaneObstacles ++ (poolObstacles c.compute ++
      (rangeObstacles .cluster (c.ranges .cluster) ++
        (rangeObstacles .service (c.ranges .service) ++
          rangeObstacles .machine (c.ranges .machine))))).head? := by
  refine failure?_bind (failure?_controlPlaneAgents c) fun _ _ =>
    failure?_bind (failure?_workerAgents 0 c.compute) fun _ _ => ?_
  rw [failure?_bind_pure]
  exact failure?_networking _

theorem networkType_of_draft {m : Manifest} (h : draft c settings = .ok m) :
    m.networkType = "" := by
  obtain ⟨control, workers, n, -, -, hn, rfl⟩ := exists_of_draft h
  exact (networking_rest hn).2.1

end Build

/-- A manifest without a network type gets one, unless nobody has one for it. -/
theorem failure?_resolve {m : Manifest} (h : m.networkType = "") (c : InstallConfig)
    (policy : DefaultsPolicy) :
    failure? (m.resolve (some c) policy) = (c.networkTypeObstacles policy).head? := by
  unfold resolve networkTypeObstacles
  rw [if_neg (not_not_intro h), Option.bind_some, Option.getD_some]
  cases c.networkType? with
  | some t => rfl
  | none => cases (policy c).networkType? <;> rfl

/-! ## The builder -/

theorem failure?_build (c : InstallConfig) (settings : Settings) (policy : DefaultsPolicy) :
    failure? (build c settings policy) = (c.obstacles policy).head? := by
  have htype (m : Manifest) (hm : Build.draft c settings = .ok m) :
      failure? (do
        let r ← m.resolve (some c) policy
        return { r with manifest := Build.withVips r.manifest c.platform.vips }) =
        (c.networkTypeObstacles policy).head? := by
    rw [failure?_bind_pure]
    exact failure?_resolve (Build.networkType_of_draft hm) c policy
  refine (failure?_bind (Build.failure?_draft c settings) htype).trans ?_
  simp only [obstacles, List.append_assoc]

/-- **When there is a manifest, and why there is none.** There is one exactly if the control plane
and every pool of workers say how many machines they have, every range can be read in the way of its
list, and the configuration has a network type or the policy gives it one. Otherwise the first of
all obstacles is reported, with the name of its pool, or with the text of its range and the reason
why it cannot be read. -/
theorem build_outcome (c : InstallConfig) (settings : Settings) (policy : DefaultsPolicy) :
    ((∃ r, build c settings policy = .ok r) ↔
      (∃ n, c.controlPlaneReplicas? = some n) ∧
      (∀ p ∈ c.compute, ∃ n, p.replicas = some n) ∧
      (∀ list, ∀ text ∈ c.ranges list, ∃ range, list.parse text = .ok range) ∧
      ((∃ t, c.networkType? = some t) ∨ ∃ t, (policy c).networkType? = some t)) ∧
    ∀ e, build c settings policy = .error e ↔ (c.obstacles policy).head? = some e := by
  constructor
  · rw [← failure?_eq_none_iff, failure?_build, List.head?_eq_none_iff, obstacles_eq_nil_iff]
  · intro e
    rw [← failure?_eq_some_iff, failure?_build]

end Manifest
end InstallManifest
