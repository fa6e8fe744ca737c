import InstallManifest.Manifest.Build
import InstallManifest.Proofs.Manifest.Resolution

/-!
# What a manifest is built of

A draft consists of the parts that its configuration gives (`exists_of_draft`); after it, only the
network type and the addresses of the manifest are set (`exists_draft_of_build`).
-/
namespace InstallManifest.Manifest
open Build

variable {c : InstallConfig} {settings : Settings} {policy : DefaultsPolicy} {r : Resolution}
  {m : Manifest}

theorem Build.exists_of_draft (h : draft c settings = .ok m) :
    ∃ control workers networking, controlPlaneAgents c = .ok control ∧
      workerAgents 0 c.compute = .ok workers ∧
      Build.networking (c.networking.getD .blank) = .ok networking ∧
      m = {
        apiVersion := groupVersion
        kind := objectKind
        metadata := Build.metadata c settings
        spec := {
          imageSetRef := some ⟨settings.imageSetName⟩
          clusterDeploymentRef := ⟨c.metadata.name⟩
          networking
          sshPublicKey := trimSshKey c.sshKey
          provisionRequirements := ⟨control, workers⟩
          apiVip := none
          ingressVip := none }
        status := none } := by
  obtain ⟨control, hcontrol, h⟩ := Result.exists_of_bind h
  obtain ⟨workers, hworkers, h⟩ := Result.exists_of_bind h
  obtain ⟨networking, hnetworking, h⟩ := Result.exists_of_bind h
  exact ⟨control, workers, networking, hcontrol, hworkers, hnetworking, (Except.ok.inj h).symm⟩

/-! ## Addresses -/

/-- Setting addresses changes nothing but the two addresses. -/
theorem Build.exists_withVips_eq (m : Manifest) (vips : Vips) :
    ∃ api ingress, withVips m vips =
      { m with spec := { m.spec with apiVip := api, ingressVip := ingress } } := by
  unfold withVips
  split
  · split
    · exact ⟨_, _, rfl⟩
    · exact ⟨m.spec.apiVip, m.spec.ingressVip, rfl⟩
  · exact ⟨m.spec.apiVip, m.spec.ingressVip, rfl⟩

/-- A change that concerns neither the number of nodes nor the addresses may be made before or after
the addresses are set. -/
theorem Build.withVips_comm {f : Manifest → Manifest}
    (hnodes : (f m).spec.provisionRequirements.controlPlaneAgents =
      m.spec.provisionRequirements.controlPlaneAgents)
    (hvips : ∀ api ingress,
      f { m with spec := { m.spec with apiVip := api, ingressVip := ingress } } =
        { f m with spec := { (f m).spec with apiVip := api, ingressVip := ingress } })
    (vips : Vips) : withVips (f m) vips = f (withVips m vips) := by
  unfold withVips
  rw [hnodes]
  split
  · split
    · exact (hvips _ _).symm
    · rfl
  · rfl

theorem Build.withVips_withNetworkType (m : Manifest) (t : String) (vips : Vips) :
    withVips (m.withNetworkType t) vips = (withVips m vips).withNetworkType t :=
  withVips_comm (f := (withNetworkType · t)) rfl (fun _ _ => rfl) vips

/-! ## The whole manifest -/

theorem exists_of_build (h : build c settings policy = .ok r) :
    ∃ m r', draft c settings = .ok m ∧ m.resolve (some c) policy = .ok r' ∧
      r = { r' with manifest := withVips r'.manifest c.platform.vips } := by
  obtain ⟨m, hm, h⟩ := Result.exists_of_bind h
  obtain ⟨r', hr, h⟩ := Result.exists_of_bind h
  exact ⟨m, r', hm, hr, (Except.ok.inj h).symm⟩

/-- **A manifest that has been built** is its draft, with a network type and with addresses. -/
theorem exists_draft_of_build (h : build c settings policy = .ok r) :
    ∃ m t api ingress, draft c settings = .ok m ∧ t ≠ "" ∧
      r.manifest = { m.withNetworkType t with
        spec := { (m.withNetworkType t).spec with apiVip := api, ingressVip := ingress } } := by
  obtain ⟨m, r', hm, hr, rfl⟩ := exists_of_build h
  obtain ⟨t, ht, hmanifest⟩ := exists_withNetworkType_of_resolve hr
  obtain ⟨api, ingress, hvips⟩ := exists_withVips_eq r'.manifest c.platform.vips
  refine ⟨m, t, api, ingress, hm, ht, ?_⟩
  dsimp only
  rw [hvips, hmanifest]

theorem networkType_ne_empty_of_build (h : build c settings policy = .ok r) :
    r.manifest.networkType ≠ "" := by
  obtain ⟨m, t, api, ingress, -, ht, hmanifest⟩ := exists_draft_of_build h
  rw [hmanifest]
  exact ht

theorem metadata_of_build (h : build c settings policy = .ok r) :
    r.manifest.metadata = Build.metadata c settings := by
  obtain ⟨m, t, api, ingress, hm, -, hmanifest⟩ := exists_draft_of_build h
  obtain ⟨control, workers, networking, -, -, -, rfl⟩ := exists_of_draft hm
  rw [hmanifest]
  rfl

theorem status_of_build (h : build c settings policy = .ok r) : r.manifest.status = none := by
  obtain ⟨m, t, api, ingress, hm, -, hmanifest⟩ := exists_draft_of_build h
  obtain ⟨control, workers, networking, -, -, -, rfl⟩ := exists_of_draft hm
  rw [hmanifest]
  rfl

/-- A policy is asked for the network type of a configuration that has none, and for nothing
else. -/
theorem build_of_agreement {policy' : DefaultsPolicy}
    (h : c.networkType? = none → (policy' c).networkType? = (policy c).networkType?)
    (settings : Settings) : build c settings policy' = build c settings policy := by
  have hresolve (m : Manifest) : m.resolve (some c) policy' = m.resolve (some c) policy :=
    resolve_congr rfl h m
  simp only [build, hresolve]

end InstallManifest.Manifest
