import InstallManifest.Proofs.Manifest.Obstacles

/-!
# Which addresses a manifest has

An address of a side may be given in a list, of which any entries may be empty, or in a single
field, in either of two sections. `InstallConfig.IsAddress` says which text counts, and
`InstallConfig.Platform.Uses` in which section it is looked for; a section that is there hides the
other one, even if it has no addresses. A manifest has both addresses or none, and it has them
exactly if both sides have one and there is a load to balance. Nothing else of a manifest, and
nothing of why there is none, depends on the platform (`Manifest.exists_unaddressed`).
-/
namespace InstallManifest

theorem Vips.both_eq_some_iff {v : Vips} {api ingress : String} :
    v.both = some (api, ingress) ↔
      v.api = some api ∧ v.ingress = some ingress ∧ api ≠ "" ∧ ingress ≠ "" := by
  obtain ⟨a, i⟩ := v
  unfold both
  cases a <;> cases i <;> grind

namespace InstallConfig

/-! ## The address of a side -/

/-- **The address of a side**: the first entry of its list that is not empty, or else its single
field, unless that is empty too. -/
def IsAddress (list : List String) (single : Option String) (address : String) : Prop :=
  address ≠ "" ∧
    ((∃ front back, list = front ++ address :: back ∧ ∀ entry ∈ front, entry = "") ∨
      (∀ entry ∈ list, entry = "") ∧ single = some address)

theorem firstNonempty_eq_some_iff {list : List String} {single : Option String}
    {address : String} :
    firstNonempty list single = some address ↔ IsAddress list single address := by
  unfold firstNonempty
  cases hfind : list.find? (· ≠ "") with
  | some entry =>
    obtain ⟨hentry, front, back, hlist, hfront⟩ := List.find?_eq_some_iff_append.1 hfind
    have hne : entry ≠ "" := by simpa using hentry
    have hempty : ∀ x ∈ front, x = "" := by simpa using hfront
    constructor
    · intro h
      obtain rfl : entry = address := Option.some.inj h
      exact ⟨hne, .inl ⟨front, back, hlist, hempty⟩⟩
    · rintro ⟨haddress, ⟨front', back', hlist', hempty'⟩ | ⟨hnone, -⟩⟩
      · -- The first entry of the list is the same, however it is told.
        have hfirst : list.find? (· ≠ "") = some address :=
          List.find?_eq_some_iff_append.2
            ⟨by simpa using haddress, front', back', hlist', by simpa using hempty'⟩
        rw [← hfirst, hfind]
        rfl
      · exact absurd (hnone entry (List.mem_of_find?_eq_some hfind)) hne
  | none =>
    have hnone : ∀ entry ∈ list, entry = "" := by simpa using List.find?_eq_none.1 hfind
    constructor
    · intro h
      obtain ⟨hsingle, hne⟩ : single = some address ∧ decide (address ≠ "") = true :=
        Option.filter_eq_some_iff.1 h
      exact ⟨by simpa using hne, .inr ⟨hnone, hsingle⟩⟩
    · rintro ⟨hne, ⟨front, back, hlist, -⟩ | ⟨-, hsingle⟩⟩
      · have hmem : address ∈ list := by simp [hlist]
        exact absurd (hnone address hmem) hne
      · exact Option.filter_eq_some_iff.2 ⟨hsingle, by simpa using hne⟩

/-! ## The addresses of a platform -/

/-- **The section that addresses are taken from**: that for bare metal if it is there, whatever is
in it, and otherwise that for vSphere. -/
def Platform.Uses (p : Platform) (q : VipPlatform) : Prop :=
  p.baremetal = some q ∨ p.baremetal = none ∧ p.vsphere = some q

/-- A pair of addresses that a platform has. -/
def Platform.HasPair (p : Platform) (api ingress : String) : Prop :=
  ∃ q, p.Uses q ∧ IsAddress q.apiVips q.apiVip api ∧ IsAddress q.ingressVips q.ingressVip ingress

theorem Platform.both_vips_eq_some_iff {p : Platform} {api ingress : String} :
    p.vips.both = some (api, ingress) ↔ p.HasPair api ingress := by
  have huses (q : VipPlatform) : (p.baremetal <|> p.vsphere) = some q ↔ p.Uses q := by
    unfold Platform.Uses
    cases p.baremetal <;> simp
  unfold Platform.vips Platform.HasPair
  cases hsection : p.baremetal <|> p.vsphere with
  | none =>
    have hnone (q : VipPlatform) : ¬ p.Uses q := by simp [← huses, hsection]
    simp [Vips.both, Vips.unset, hnone]
  | some q =>
    have hone (q' : VipPlatform) : p.Uses q' ↔ q = q' := by simp [← huses, hsection]
    simp only [hone, exists_eq_left', Vips.both_eq_some_iff, VipPlatform.vips,
      firstNonempty_eq_some_iff]
    constructor
    · exact fun h => ⟨h.1, h.2.1⟩
    · exact fun h => ⟨h.1, h.2, h.1.1, h.2.1⟩

end InstallConfig

namespace Manifest
open Build InstallConfig

variable {c : InstallConfig} {settings : Settings} {policy : DefaultsPolicy} {r : Resolution}

/-! ## What depends on the platform -/

/-- A manifest that has been resolved, with its addresses. -/
def addressed (platform : Platform) (r : Resolution) : Resolution :=
  { r with manifest := withVips r.manifest platform.vips }

/-- **The platform is looked at last.** What is built of a configuration, and of the same one on
another platform, is the same up to the addresses, unless the policy chooses the network type by the
platform. -/
theorem exists_unaddressed {platform : Platform}
    (hpolicy : (policy { c with platform }).networkType? = (policy c).networkType?)
    (settings : Settings) :
    ∃ common : Except ManifestError Resolution,
      build c settings policy = common.map (addressed c.platform) ∧
      build { c with platform } settings policy = common.map (addressed platform) := by
  have hbuild (c : InstallConfig) : build c settings policy =
      (draft c settings >>= fun m => m.resolve (some c) policy).map (addressed c.platform) := by
    unfold build
    cases draft c settings with
    | error e => rfl
    | ok m =>
      show (m.resolve (some c) policy >>= fun r => pure (addressed c.platform r)) =
        (m.resolve (some c) policy).map (addressed c.platform)
      cases m.resolve (some c) policy <;> rfl
  have htype : ({ c with platform } : InstallConfig).networkType? = c.networkType? := rfl
  have hresolve (m : Manifest) :
      m.resolve (some { c with platform }) policy = m.resolve (some c) policy :=
    resolve_congr htype (fun _ => hpolicy) m
  refine ⟨_, hbuild c, ?_⟩
  rw [hbuild]
  simp only [hresolve]
  rfl

/-! ## The addresses of a manifest -/

/-- The pair of addresses that is set in a manifest that has none yet. -/
theorem Build.vips_withVips {m : Manifest} (hapi : m.spec.apiVip = none)
    (hingress : m.spec.ingressVip = none) (vips : Vips) :
    let pair :=
      if 1 < m.spec.provisionRequirements.controlPlaneAgents then vips.both else none
    (withVips m vips).spec.apiVip = pair.map Prod.fst ∧
      (withVips m vips).spec.ingressVip = pair.map Prod.snd := by
  unfold withVips
  split
  · cases vips.both with
    | none => exact ⟨hapi, hingress⟩
    | some pair => exact ⟨rfl, rfl⟩
  · exact ⟨hapi, hingress⟩

/-- The number of nodes of a control plane is that of its configuration. -/
theorem Build.controlPlaneAgents_eq_ok_iff {n : UInt32} :
    controlPlaneAgents c = .ok n ↔ c.controlPlaneReplicas? = some n := by
  unfold controlPlaneAgents
  cases c.controlPlaneReplicas? <;> simp

theorem exists_pair_of_build (h : build c settings policy = .ok r) :
    ∃ pair : Option (String × String),
      r.manifest.spec.apiVip = pair.map Prod.fst ∧
      r.manifest.spec.ingressVip = pair.map Prod.snd ∧
      ∀ api ingress, pair = some (api, ingress) ↔
        (∃ n, c.controlPlaneReplicas? = some n ∧ 1 < n) ∧ c.platform.HasPair api ingress := by
  obtain ⟨m, r', hm, hresolve, rfl⟩ := exists_of_build h
  obtain ⟨n, workers, networking, hcontrol, -, -, rfl⟩ := exists_of_draft hm
  obtain ⟨t, -, ht⟩ := exists_withNetworkType_of_resolve hresolve
  have hn : c.controlPlaneReplicas? = some n := controlPlaneAgents_eq_ok_iff.1 hcontrol
  refine ⟨if 1 < n then c.platform.vips.both else none, ?_, ?_, fun api ingress => ?_⟩
  · rw [ht]
    exact (vips_withVips rfl rfl _).1
  · rw [ht]
    exact (vips_withVips rfl rfl _).2
  · rw [← Platform.both_vips_eq_some_iff]
    by_cases hmany : 1 < n <;> simp [hn, hmany]

/-- **The addresses of a manifest.** It has none, or one for each side, and these are not empty. It
has them exactly if there is more than one node in the control plane and the platform has an address
for both sides, and then it has those. On another platform, a manifest is built of the same
configuration with the installer's policy exactly if it is on this one; otherwise it fails in the
same way, and it differs in nothing but the addresses. -/
theorem vips_law (c : InstallConfig) (settings : Settings) (policy : DefaultsPolicy) :
    (∀ r, build c settings policy = .ok r →
      let spec := r.manifest.spec
      (spec.apiVip = none ∧ spec.ingressVip = none ∨
        ∃ api ingress, api ≠ "" ∧ ingress ≠ "" ∧ spec.apiVip = some api ∧
          spec.ingressVip = some ingress) ∧
      ∀ api ingress, (spec.apiVip = some api ∧ spec.ingressVip = some ingress ↔
        (∃ n, c.controlPlaneReplicas? = some n ∧ 1 < n) ∧ c.platform.HasPair api ingress)) ∧
    ∀ platform : Platform,
      let built := build c settings Defaults.installer
      let built' := build { c with platform } settings Defaults.installer
      (∀ e, built' = .error e ↔ built = .error e) ∧
      ∀ r r', built = .ok r → built' = .ok r' → r'.source = r.source ∧
        ∃ api ingress, r'.manifest =
          { r.manifest with
            spec := { r.manifest.spec with apiVip := api, ingressVip := ingress } } := by
  constructor
  · intro r hr
    obtain ⟨pair, hapi, hingress, hpair⟩ := exists_pair_of_build hr
    dsimp only
    simp only [hapi, hingress, ← hpair]
    cases pair with
    | none => simp
    | some pair =>
      obtain ⟨api, ingress⟩ := pair
      obtain ⟨-, q, -, ⟨hne, -⟩, ⟨hne', -⟩⟩ := (hpair api ingress).1 rfl
      exact ⟨.inr ⟨api, ingress, hne, hne', rfl, rfl⟩, by simp⟩
  · intro platform built built'
    obtain ⟨common, hbuilt, hbuilt'⟩ : ∃ common : Except ManifestError Resolution,
        built = common.map (addressed c.platform) ∧ built' = common.map (addressed platform) :=
      exists_unaddressed rfl settings
    rw [hbuilt, hbuilt']
    cases common with
    | error e => simp [Except.map]
    | ok r₀ =>
      refine ⟨fun e => by simp [Except.map], ?_⟩
      rintro r r' hr hr'
      obtain rfl := Except.ok.inj hr
      obtain rfl := Except.ok.inj hr'
      obtain ⟨api, ingress, hset⟩ := exists_withVips_eq r₀.manifest c.platform.vips
      obtain ⟨api', ingress', hset'⟩ := exists_withVips_eq r₀.manifest platform.vips
      refine ⟨rfl, api', ingress', ?_⟩
      simp only [addressed, hset, hset']

/-- A section with addresses in a list and in a field, and entries that are empty. -/
def patchySection : VipPlatform := ⟨["", "10.0.0.1", "10.0.0.9"], [""], some "", some "10.0.0.2"⟩

/-- A configuration of three nodes on a platform. -/
def onPlatform (platform : Platform) : InstallConfig :=
  { InstallConfig.blank with controlPlane := some ⟨"", some 3⟩, platform }

theorem vips_law_patchy :
    let shown : Platform := ⟨some patchySection, some .blank, false⟩
    let hidden : Platform := ⟨some .blank, some patchySection, false⟩
    ∃ r r', build (onPlatform shown) .standard Defaults.installer = .ok r ∧
      build (onPlatform hidden) .standard Defaults.installer = .ok r' ∧
      r.manifest.spec.apiVip = some "10.0.0.1" ∧ r.manifest.spec.ingressVip = some "10.0.0.2" ∧
      r'.manifest.spec.apiVip = none ∧ r'.manifest.spec.ingressVip = none ∧
      ∃ api ingress, r'.manifest =
        { r.manifest with
          spec := { r.manifest.spec with apiVip := api, ingressVip := ingress } } := by
  intro shown hidden
  obtain ⟨r, hr⟩ : ∃ r, build (onPlatform shown) .standard Defaults.installer = .ok r := by
    decide +kernel
  obtain ⟨r', hr'⟩ : ∃ r, build (onPlatform hidden) .standard Defaults.installer = .ok r := by
    decide +kernel
  obtain ⟨hvips, hplatforms⟩ := vips_law (onPlatform shown) .standard Defaults.installer
  obtain ⟨hvips', -⟩ := vips_law (onPlatform hidden) .standard Defaults.installer
  have hapi : IsAddress patchySection.apiVips patchySection.apiVip "10.0.0.1" :=
    firstNonempty_eq_some_iff.1 (by decide)
  have hingress : IsAddress patchySection.ingressVips patchySection.ingressVip "10.0.0.2" :=
    firstNonempty_eq_some_iff.1 (by decide)
  obtain ⟨hset, hset'⟩ := ((hvips r hr).2 "10.0.0.1" "10.0.0.2").2
    ⟨⟨3, rfl, by decide⟩, patchySection, .inl rfl, hapi, hingress⟩
  obtain ⟨hnone, hnone'⟩ | ⟨api, ingress, -, -, hsome⟩ := (hvips' r' hr').1
  · exact ⟨r, r', hr, hr', hset, hset', hnone, hnone', ((hplatforms hidden).2 r r' hr hr').2⟩
  · -- The section for bare metal is there, and it has no addresses.
    have hpair : hidden.vips.both = some (api, ingress) :=
      Platform.both_vips_eq_some_iff.2 (((hvips' r' hr').2 api ingress).1 hsome).2
    have hempty : hidden.vips.both = none := rfl
    rw [hempty] at hpair
    cases hpair

end Manifest
end InstallManifest
