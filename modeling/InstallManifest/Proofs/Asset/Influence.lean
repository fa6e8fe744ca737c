import InstallManifest.Proofs.Asset.Adoption
import InstallManifest.Proofs.Data.Result
import InstallManifest.Proofs.Manifest.Build
import InstallManifest.Store.Memory

/-!
# What a policy has a say in

A policy is given a whole configuration and may make of it what it likes. Of the outcome, nothing
but the network type is looked at, and even that only if the configuration has none of its own. So
two policies that cannot be told apart there cannot be told apart anywhere; and whatever policies
there are, the manifests that they lead to are one and the same up to the network type
(`Asset.policy_influence`).
-/
namespace InstallManifest
namespace Manifest

/-- What is built of a configuration is there before anybody asks the policy, up to the network
type. -/
theorem exists_common_of_build (c : InstallConfig) (settings : Settings) :
    ∃ m : Manifest, ∀ policy r, build c settings policy = .ok r →
      ∃ t, r.manifest = m.withNetworkType t := by
  cases hdraft : Build.draft c settings with
  | error e =>
    refine ⟨.blank, ?_⟩
    intro policy r h
    obtain ⟨m, r', hm, -⟩ := exists_of_build h
    rw [hdraft] at hm
    cases hm
  | ok m =>
    refine ⟨Build.withVips m c.platform.vips, ?_⟩
    intro policy r h
    obtain ⟨m', r', hm, hresolve, rfl⟩ := exists_of_build h
    obtain rfl : m = m' := Except.ok.inj (hdraft.symm.trans hm)
    obtain ⟨t, -, ht⟩ := exists_withNetworkType_of_resolve hresolve
    refine ⟨t, ?_⟩
    rw [ht]
    exact Build.withVips_withNetworkType m t c.platform.vips

end Manifest

namespace Asset
variable {c : InstallConfig} {settings : Settings} {policy policy' : DefaultsPolicy}
  {σ : Type} [AssetStore σ] {store : σ}

theorem generate_of_agreement
    (h : c.networkType? = none → (policy' c).networkType? = (policy c).networkType?)
    (a : Asset) (settings : Settings) :
    a.generate (some c) settings policy' = a.generate (some c) settings policy := by
  simp only [generate, Manifest.build_of_agreement h]

theorem load_of_agreement
    (h : (policy' .blank).networkType? = (policy .blank).networkType?) (a : Asset) (store : σ)
    (settings : Settings) : a.load store settings policy' = a.load store settings policy := by
  have hresolve (m : Manifest) :
      m.resolve (some .blank) policy' = m.resolve (some .blank) policy :=
    Manifest.resolve_congr rfl (fun _ => h) m
  simp only [load, resolveFile, hresolve]

/-- What is loaded from a store is there before anybody asks the policy, up to the network type. -/
theorem exists_common_of_load (store : σ) (settings : Settings) :
    ∃ m : Manifest, ∀ policy (a : Asset), (a.load store settings policy).result = .ok true →
      ∃ t, (a.load store settings policy).asset.manifest = some (m.withNetworkType t) := by
  by_cases hstored : ∃ f m, AssetStore.fetch store fileName = .ok f ∧
      Manifest.decode settings.parseMode f.data = .ok m
  · obtain ⟨f, m, hfetch, hdecode⟩ := hstored
    refine ⟨m, ?_⟩
    intro policy a h
    obtain ⟨f', m', r, hfetch', hdecode', hresolve, hmanifest⟩ := exists_of_load h
    obtain rfl : f = f' := Except.ok.inj (hfetch.symm.trans hfetch')
    obtain rfl : m = m' := Except.ok.inj (hdecode.symm.trans hdecode')
    obtain ⟨t, -, ht⟩ := Manifest.exists_withNetworkType_of_resolve hresolve
    exact ⟨t, hmanifest.trans (congrArg some ht)⟩
  · refine ⟨.blank, ?_⟩
    intro policy a h
    obtain ⟨f, m, -, hfetch, hdecode, -⟩ := exists_of_load h
    exact absurd ⟨f, m, hfetch, hdecode⟩ hstored

/-- **A policy can influence nothing but the network type.** Let two policies leave the same network
type on a configuration, or let the configuration have one itself. Then they lead to the same
manifest or the same failure, and generating ends alike: in its answer, in what is announced, and in
the asset that it leaves. So does loading, if they leave the same network type on a blank
configuration. And of a configuration, or of a store, all policies whatsoever lead to one manifest,
but for the network type: no number of machines, no range and no address in it is theirs. -/
theorem policy_influence (settings : Settings) :
    (∀ (c : InstallConfig) (policy policy' : DefaultsPolicy),
      (∃ t, c.networkType? = some t) ∨ (policy' c).networkType? = (policy c).networkType? →
      Manifest.build c settings policy' = Manifest.build c settings policy ∧
      ∀ a : Asset, a.generate (some c) settings policy' = a.generate (some c) settings policy) ∧
    (∀ {σ : Type} [AssetStore σ] (store : σ) (policy policy' : DefaultsPolicy),
      (policy' .blank).networkType? = (policy .blank).networkType? →
      ∀ a : Asset, a.load store settings policy' = a.load store settings policy) ∧
    (∀ c : InstallConfig, ∃ m : Manifest, ∀ policy,
      (∀ r, Manifest.build c settings policy = .ok r → ∃ t, r.manifest = m.withNetworkType t) ∧
      ∀ a : Asset, (a.generate (some c) settings policy).result = .ok () →
        ∃ t, (a.generate (some c) settings policy).asset.manifest =
          some (m.withNetworkType t)) ∧
    ∀ {σ : Type} [AssetStore σ] (store : σ), ∃ m : Manifest, ∀ policy (a : Asset),
      (a.load store settings policy).result = .ok true →
        ∃ t, (a.load store settings policy).asset.manifest = some (m.withNetworkType t) := by
  refine ⟨?_, ?_, ?_, fun store => exists_common_of_load store settings⟩
  · intro c policy policy' h
    have hagree : c.networkType? = none →
        (policy' c).networkType? = (policy c).networkType? := by
      intro hnone
      rcases h with ⟨t, ht⟩ | h
      · rw [hnone] at ht
        cases ht
      · exact h
    exact ⟨Manifest.build_of_agreement hagree settings,
      fun a => generate_of_agreement hagree a settings⟩
  · intro σ _ store policy policy' h a
    exact load_of_agreement h a store settings
  · intro c
    obtain ⟨m, hm⟩ := Manifest.exists_common_of_build c settings
    refine ⟨m, fun policy => ⟨hm policy, ?_⟩⟩
    intro a h
    obtain ⟨r, hbuild, hmanifest⟩ := exists_of_generate h
    obtain ⟨t, ht⟩ := hm policy r hbuild
    exact ⟨t, hmanifest.trans (congrArg some ht)⟩

/-- A configuration without networking, for three nodes. -/
def plainConfig : InstallConfig :=
  { InstallConfig.blank with
    metadata := ⟨"plain", none⟩
    controlPlane := some ⟨"master", some 3⟩
    compute := [⟨"worker", some 2⟩] }

/-- A policy that sets everything, whether it is set already or not. -/
def lavishPolicy (networkType : String) : DefaultsPolicy := fun c =>
  { c with
    controlPlane := some ⟨"master", some 99⟩
    compute := [⟨"worker", some 99⟩, ⟨"infra", some 99⟩]
    networking := some ⟨networkType, [⟨"fd01::/48", 64⟩], ["fd02::/112"], [⟨"fd03::/64"⟩]⟩
    platform := ⟨some ⟨["10.0.0.1"], ["10.0.0.2"], none, none⟩, none, false⟩ }

theorem policy_influence_lavish :
    let lavish := lavishPolicy NetworkType.ovnKubernetes
    let store := MemoryStore.ofFile ⟨fileName, "kind: edited\n".toUTF8⟩
    Manifest.build plainConfig .standard lavish =
      Manifest.build plainConfig .standard Defaults.installer ∧
    empty.generate (some plainConfig) .standard lavish =
      empty.generate (some plainConfig) .standard Defaults.installer ∧
    empty.load store .standard lavish = empty.load store .standard Defaults.installer ∧
    (∃ (r : Resolution) (m : Manifest) (t : String),
      Manifest.build plainConfig .standard (lavishPolicy "Calico") = .ok r ∧
      r.manifest = m.withNetworkType "Calico" ∧
      (empty.generate (some plainConfig) .standard lavish).asset.manifest =
        some (m.withNetworkType t)) ∧
    ∃ (m : Manifest) (t t' : String),
      (empty.load store .standard lavish).asset.manifest = some (m.withNetworkType t) ∧
      (empty.load store .standard (lavishPolicy "Calico")).asset.manifest =
        some (m.withNetworkType t') := by
  intro lavish store
  obtain ⟨hagree, hload, hbuilt, hstored⟩ := policy_influence .standard
  have htype : (lavish plainConfig).networkType? =
      (Defaults.installer plainConfig).networkType? := by decide
  obtain ⟨hbuild, hgenerate⟩ := hagree plainConfig Defaults.installer lavish (.inr htype)
  have hblank : (lavish .blank).networkType? = (Defaults.installer .blank).networkType? := by decide
  refine ⟨hbuild, hgenerate empty, hload store _ _ hblank empty, ?_, ?_⟩
  · obtain ⟨m, hm⟩ := hbuilt plainConfig
    obtain ⟨r, hr, hcalico⟩ : ∃ r,
        Manifest.build plainConfig .standard (lavishPolicy "Calico") = .ok r ∧
          r.manifest.networkType = "Calico" := by decide +kernel
    obtain ⟨t, ht⟩ := (hm lavish).2 empty (Result.toOption_eq_some.1 (by decide +kernel))
    obtain ⟨t', ht'⟩ := (hm (lavishPolicy "Calico")).1 r hr
    rw [ht'] at hcalico
    obtain rfl : t' = "Calico" := hcalico
    exact ⟨r, m, t, hr, ht', ht⟩
  · obtain ⟨m, hm⟩ := hstored store
    obtain ⟨t, ht⟩ := hm lavish empty (Result.toOption_eq_some.1 (by decide +kernel))
    obtain ⟨t', ht'⟩ := hm (lavishPolicy "Calico") empty
      (Result.toOption_eq_some.1 (by decide +kernel))
    exact ⟨m, t, t', ht, ht'⟩

end Asset
end InstallManifest
