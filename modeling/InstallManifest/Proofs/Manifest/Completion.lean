import InstallManifest.Proofs.Asset.Adoption
import InstallManifest.Proofs.Config.Completion
import InstallManifest.Proofs.Manifest.Canonical
import InstallManifest.Proofs.Manifest.Obstacles

/-!
# Completing a configuration first

There are two ways to a manifest of a configuration with gaps. It is built as it is, and the policy
is asked for a network type if there is none; or the configuration is completed, and then built. The
two fill the gaps at different places, but they agree on everything that the configuration sets
(`Manifest.build_completed`): what is built of a completed configuration is the manifest of the
configuration as it is, with default ranges where it has none, and with default workers if it has
none (`Manifest.build_installer`).
-/
namespace InstallManifest
namespace Defaults

/-! ## What the builder reads of a completed configuration -/

theorem forall₂_nonempty {α β : Type} {R : α → β → Prop} {x : α} {y : β} {xs : List α}
    {ys : List β} (hdefault : R x y) (h : List.Forall₂ R xs ys) :
    List.Forall₂ R (nonempty x xs) (nonempty y ys) := by
  cases h with
  | nil => exact .cons hdefault .nil
  | cons hxy hrest => exact .cons hxy hrest

theorem controlPlaneReplicas?_installer (c : InstallConfig) :
    (installer c).controlPlaneReplicas? = some (c.controlPlaneReplicas?.getD replicas) := by
  unfold InstallConfig.controlPlaneReplicas? installer
  rcases c.controlPlane with _ | ⟨name, _ | n⟩ <;> rfl

end Defaults

namespace Manifest
open Defaults

variable {c : InstallConfig} {settings : Settings} {policy : DefaultsPolicy} {r : Resolution}
  {m : Manifest}

/-- The manifest with default ranges in the lists that are empty, and with the default number of
workers if a configuration has none. -/
def completed (m : Manifest) (c : InstallConfig) : Manifest :=
  { m with
    spec := { m.spec with
      networking := { m.spec.networking with
        machineNetwork := nonempty machineRange m.spec.networking.machineNetwork
        clusterNetwork := nonempty clusterRange m.spec.networking.clusterNetwork
        serviceNetwork := nonempty serviceRange m.spec.networking.serviceNetwork }
      provisionRequirements := { m.spec.provisionRequirements with
        workerAgents :=
          if c.compute.isEmpty then replicas else m.spec.provisionRequirements.workerAgents } } }

/-! ## Stage by stage -/

namespace Build

theorem controlPlaneAgents_installer {n : UInt32} (h : controlPlaneAgents c = .ok n) :
    controlPlaneAgents (installer c) = .ok n := by
  unfold controlPlaneAgents at h ⊢
  rw [controlPlaneReplicas?_installer]
  cases hcount : c.controlPlaneReplicas? with
  | none => simp [hcount] at h
  | some k => simpa [hcount] using h

/-- Workers that have been counted all say how many they are, so that there is nothing to supply. -/
theorem exists_replicas_of_workerAgents {pools : List InstallConfig.MachinePool} {total n : UInt32}
    (h : workerAgents total pools = .ok n) : ∀ p ∈ pools, ∃ k, p.replicas = some k := by
  have hnone : Result.failure? (workerAgents total pools) = none :=
    Result.failure?_eq_none_iff.2 ⟨n, h⟩
  rw [failure?_workerAgents, List.head?_eq_none_iff] at hnone
  exact InstallConfig.poolObstacles_eq_nil_iff.1 hnone

theorem workerAgents_installer {n : UInt32} (h : workerAgents 0 c.compute = .ok n) :
    workerAgents 0 (installer c).compute = .ok (if c.compute.isEmpty then replicas else n) := by
  by_cases hcompute : c.compute = []
  · simp only [installer, hcompute]
    rfl
  · rw [compute_installer hcompute, map_pool_eq_self (exists_replicas_of_workerAgents h), h]
    simp [hcompute]

theorem networking_installer {n : InstallConfig.Networking} {built : Networking}
    (h : networking n = .ok built) :
    networking (Defaults.networking n) = .ok { built with
      machineNetwork := nonempty machineRange built.machineNetwork
      clusterNetwork := nonempty clusterRange built.clusterNetwork
      serviceNetwork := nonempty serviceRange built.serviceNetwork } := by
  obtain ⟨hclusters, hservices, hmachines, hrest⟩ := networking_eq_ok_iff.1 h
  obtain ⟨cluster, hcluster, hclusterText⟩ := exists_parse_range .cluster
  obtain ⟨service, hservice, hserviceText⟩ := exists_parse_range .service
  obtain ⟨machine, hmachine, hmachineText⟩ := exists_parse_range .machine
  refine networking_eq_ok_iff.2 ⟨?_, ?_, ?_, hrest⟩
  · apply forall₂_nonempty _ hclusters
    exact ⟨cluster, hcluster, congrArg clusterRange.withCidr hclusterText⟩
  · exact forall₂_nonempty ⟨service, hservice, hserviceText⟩ hservices
  · apply forall₂_nonempty _ hmachines
    exact ⟨machine, hmachine, congrArg machineRange.withCidr hmachineText⟩

/-- The draft of a completed configuration is the completed draft. -/
theorem draft_installer (h : draft c settings = .ok m) :
    draft (installer c) settings = .ok (m.completed c) := by
  obtain ⟨control, workers, n, hcontrol, hworkers, hn, rfl⟩ := exists_of_draft h
  have hsection : (installer c).networking.getD .blank =
      Defaults.networking (c.networking.getD .blank) := rfl
  simp only [draft, controlPlaneAgents_installer hcontrol, workerAgents_installer hworkers,
    hsection, networking_installer hn, bind, Except.bind]
  rfl

theorem withVips_completed (m : Manifest) (c : InstallConfig) (vips : Vips) :
    withVips (m.completed c) vips = (withVips m vips).completed c :=
  withVips_comm (f := (completed · c)) rfl (fun _ _ => rfl) vips

end Build

theorem manifest_of_resolve_installer (hm : m.networkType = "")
    (h : m.resolve (some c) installer = .ok r) :
    r.manifest = m.withNetworkType (c.networkType?.getD NetworkType.ovnKubernetes) := by
  rcases resolve_cases h with ⟨hne, -⟩ | ⟨-, t, ht, rfl⟩ | ⟨-, hnone, t, ht, rfl⟩
  · exact absurd hm hne
  · have htype : c.networkType? = some t := ht
    rw [htype]
    rfl
  · have htype : c.networkType? = none := hnone
    have hsupplied : (installer c).networkType? = some t := ht
    rw [networkType?_installer, htype] at hsupplied
    rw [htype, Option.some.inj hsupplied]

theorem resolve_of_installer (hm : m.networkType = "") (c : InstallConfig)
    (policy : DefaultsPolicy) :
    m.resolve (some (installer c)) policy =
      .ok ⟨m.withNetworkType (c.networkType?.getD NetworkType.ovnKubernetes), .installConfig⟩ := by
  simp [resolve, hm, networkType?_installer]

/-- **What is built of a completed configuration** is what is built of the configuration as it is,
completed. -/
theorem build_installer (h : build c settings installer = .ok r) (policy : DefaultsPolicy) :
    build (installer c) settings policy = .ok ⟨r.manifest.completed c, .installConfig⟩ := by
  obtain ⟨m, r', hm, hresolve, rfl⟩ := exists_of_build h
  have hempty : m.networkType = "" := Build.networkType_of_draft hm
  have hmanifest := manifest_of_resolve_installer hempty hresolve
  have hcompleted := resolve_of_installer (m := m.completed c) hempty c policy
  simp only [build, Build.draft_installer hm, hcompleted, bind, Except.bind]
  rw [hmanifest, ← Build.withVips_completed]
  rfl

/-! ## What cannot go wrong -/

/-- The builder never looks further than to the ranges of a complete configuration. -/
theorem exists_range_of_build_error {e : ManifestError} (hc : c.IsComplete)
    (h : build c settings policy = .error e) :
    ∃ list, ∃ text ∈ c.ranges list, ∃ cause,
      list.parse text = .error cause ∧ e = .invalidRange list text cause := by
  have hfirst : (c.obstacles policy).head? = some e := by
    rw [← failure?_build c settings policy]
    exact Result.failure?_eq_some_iff.2 h
  have hmem : e ∈ c.obstacles policy := List.mem_of_mem_head? hfirst
  have hcontrol := InstallConfig.controlPlaneObstacles_eq_nil_iff.2 hc.controlPlane
  have hpools := InstallConfig.poolObstacles_eq_nil_iff.2 hc.compute
  have htype : c.networkTypeObstacles policy = [] :=
    InstallConfig.networkTypeObstacles_eq_nil_iff.2 (.inl hc.networkType)
  rw [InstallConfig.obstacles, hcontrol, hpools, htype] at hmem
  simp only [List.nil_append, List.append_nil, List.mem_append,
    InstallConfig.mem_rangeObstacles_iff] at hmem
  rcases hmem with (hcluster | hservice) | hmachine
  · exact ⟨.cluster, hcluster⟩
  · exact ⟨.service, hservice⟩
  · exact ⟨.machine, hmachine⟩

/-- Nothing is announced about a configuration that has a network type. -/
theorem notices_of_build {t : String} (ht : c.networkType? = some t)
    (h : build c settings policy = .ok r) (warning : String) : r.notices warning = [] := by
  obtain ⟨m, r', -, hresolve, rfl⟩ := exists_of_build h
  rcases resolve_cases hresolve with ⟨-, rfl⟩ | ⟨-, t', -, rfl⟩ | ⟨-, hnone, -⟩
  · rfl
  · rfl
  · have hunset : c.networkType? = none := hnone
    rw [ht] at hunset
    cases hunset

theorem notices_generate {t : String} (ht : c.networkType? = some t) (a : Asset)
    (settings : Settings) (policy : DefaultsPolicy) :
    (a.generate (some c) settings policy).notices = [] := by
  rw [Asset.generate, Asset.notices_adopt]
  cases hbuild : build c settings policy with
  | error e => rfl
  | ok r => exact notices_of_build ht hbuild _

/-! ## What is agreed on -/

/-- **Whether two manifests agree on what a configuration sets**: on every list of ranges and on the
workers, if it has some, and on all that it does not leave to the defaults. -/
structure AgreesOn (c : InstallConfig) (m m' : Manifest) : Prop where
  identity : m'.apiVersion = m.apiVersion ∧ m'.kind = m.kind ∧ m'.metadata = m.metadata
  references : m'.spec.imageSetRef = m.spec.imageSetRef ∧
    m'.spec.clusterDeploymentRef = m.spec.clusterDeploymentRef
  sshPublicKey : m'.spec.sshPublicKey = m.spec.sshPublicKey
  controlPlaneAgents : m'.spec.provisionRequirements.controlPlaneAgents =
    m.spec.provisionRequirements.controlPlaneAgents
  vips : m'.spec.apiVip = m.spec.apiVip ∧ m'.spec.ingressVip = m.spec.ingressVip
  networkType : m'.networkType = m.networkType
  clusterNetwork : c.ranges .cluster ≠ [] →
    m'.spec.networking.clusterNetwork = m.spec.networking.clusterNetwork
  serviceNetwork : c.ranges .service ≠ [] →
    m'.spec.networking.serviceNetwork = m.spec.networking.serviceNetwork
  machineNetwork : c.ranges .machine ≠ [] →
    m'.spec.networking.machineNetwork = m.spec.networking.machineNetwork
  workerAgents : c.compute ≠ [] → m'.spec.provisionRequirements.workerAgents =
    m.spec.provisionRequirements.workerAgents

theorem ranges_ne_nil_of_build {list : RangeList} (h : build c settings policy = .ok r)
    (hc : c.ranges list ≠ []) : r.manifest.spec.networking.ranges list ≠ [] := by
  obtain ⟨n, hn, hranges, -⟩ := exists_ranges_of_build h
  have hlength : (c.ranges list).length = (n.ranges list).length :=
    (Build.networking_ranges hn list).length_eq
  rw [hranges]
  intro hnil
  rw [hnil] at hlength
  exact hc (List.eq_nil_of_length_eq_zero hlength)

theorem agreesOn_completed (h : build c settings policy = .ok r) :
    AgreesOn c r.manifest (r.manifest.completed c) where
  identity := ⟨rfl, rfl, rfl⟩
  references := ⟨rfl, rfl⟩
  sshPublicKey := rfl
  controlPlaneAgents := rfl
  vips := ⟨rfl, rfl⟩
  networkType := rfl
  clusterNetwork hc := by
    refine nonempty_eq_self fun hnil => ranges_ne_nil_of_build h hc ?_
    exact List.map_eq_nil_iff.2 hnil
  serviceNetwork hc := nonempty_eq_self (ranges_ne_nil_of_build h hc)
  machineNetwork hc := by
    refine nonempty_eq_self fun hnil => ranges_ne_nil_of_build h hc ?_
    exact List.map_eq_nil_iff.2 hnil
  workerAgents hc := by simp [completed, hc]

/-- **To complete a configuration first does no harm.** A completed configuration is built without
asking the policy and without an announcement, and never fails for want of a number of machines or
of a network type. If a manifest can be built of the configuration as it is, with the installer's
policy, then one can be built of the completed configuration, and the two manifests agree on all
that the configuration sets. -/
theorem build_completed (c : InstallConfig) (settings : Settings) (policy : DefaultsPolicy) :
    let built := build (installer c) settings policy
    (∀ pool, built ≠ .error (.missingReplicas pool)) ∧
    built ≠ .error .unresolvedNetworkType ∧
    (∀ r, built = .ok r → r.notices Resolution.buildWarning = []) ∧
    (∀ a : Asset, (a.generate (some (installer c)) settings policy).notices = []) ∧
    (∀ policy', build (installer c) settings policy' = built) ∧
    ∀ r, build c settings installer = .ok r →
      ∃ r', built = .ok r' ∧ AgreesOn c r.manifest r'.manifest := by
  intro built
  have hcomplete : (installer c).IsComplete := isComplete_installer c
  have htype := networkType?_installer c
  refine ⟨?_, ?_, ?_, fun a => notices_generate htype a settings policy, ?_, ?_⟩
  · intro pool hfail
    obtain ⟨list, text, -, cause, -, he⟩ := exists_range_of_build_error hcomplete hfail
    cases he
  · intro hfail
    obtain ⟨list, text, -, cause, -, he⟩ := exists_range_of_build_error hcomplete hfail
    cases he
  · intro r hr
    exact notices_of_build htype hr _
  · intro policy'
    refine build_of_agreement ?_ settings
    intro hnone
    rw [htype] at hnone
    cases hnone
  · intro r hr
    exact ⟨_, build_installer hr policy, agreesOn_completed hr⟩

/-- A configuration that has a range for pods, not in its one form, and leaves most else open. -/
def openConfig : InstallConfig :=
  { InstallConfig.blank with
    metadata := ⟨"open", some ""⟩
    controlPlane := some ⟨"", some 3⟩
    networking := some ⟨"", [⟨"010.0.0.0/14", 25⟩], [], []⟩
    platform := ⟨some ⟨[""], [], some "10.0.0.1", some "10.0.0.2"⟩, none, false⟩ }

theorem build_completed_open : ∃ r r',
    build openConfig .standard installer = .ok r ∧
    build (installer openConfig) .standard id = .ok r' ∧
    AgreesOn openConfig r.manifest r'.manifest ∧
    r'.notices Resolution.buildWarning = [] ∧
    r.manifest.spec.networking.serviceNetwork = [] ∧
    r'.manifest.spec.networking.clusterNetwork = [⟨"10.0.0.0/14", 25⟩] := by
  obtain ⟨r, hbuild, hservices, hclusters⟩ : ∃ r, build openConfig .standard installer = .ok r ∧
      r.manifest.spec.networking.serviceNetwork = [] ∧
      r.manifest.spec.networking.clusterNetwork = [⟨"10.0.0.0/14", 25⟩] := by
    decide +kernel
  obtain ⟨-, -, hnotices, -, -, hagree⟩ := build_completed openConfig .standard id
  obtain ⟨r', hbuild', hsame⟩ := hagree r hbuild
  refine ⟨r, r', hbuild, hbuild', hsame, hnotices r' hbuild', hservices, ?_⟩
  rw [hsame.clusterNetwork (by decide), hclusters]

end Manifest
end InstallManifest
