import InstallManifest.Manifest.Resolution

/-!
# Network types are resolved once

A manifest follows the first one who has a network type for it: the manifest itself, then the
configuration, then the policy (`Manifest.offers`). Resolution changes nothing of a manifest but its
network type, gives it one that is not empty, and has nothing left to do after that, whoever is
asked then (`Resolution.outcome_law`).
-/
namespace InstallManifest
namespace Manifest
variable {m : Manifest} {config : Option InstallConfig} {policy : DefaultsPolicy} {r : Resolution}

@[simp] theorem networkType_withNetworkType (m : Manifest) (t : String) :
    (m.withNetworkType t).networkType = t := rfl

@[simp] theorem withNetworkType_networkType (m : Manifest) :
    m.withNetworkType m.networkType = m := rfl

/-- The network type of a configuration is not empty if it is there. -/
theorem ne_empty_of_networkType? {c : InstallConfig} {t : String} (h : c.networkType? = some t) :
    t ≠ "" := by
  simpa using (Option.filter_eq_some_iff.1 h).2

theorem resolve_of_ne_empty (h : m.networkType ≠ "") :
    m.resolve config policy = .ok ⟨m, .alreadySet⟩ := by
  simp [resolve, h]

/-- **Where a resolved network type comes from.** -/
theorem resolve_cases (h : m.resolve config policy = .ok r) :
    (m.networkType ≠ "" ∧ r = ⟨m, .alreadySet⟩) ∨
    (m.networkType = "" ∧ ∃ t, config.bind (·.networkType?) = some t ∧
      r = ⟨m.withNetworkType t, .installConfig⟩) ∨
    (m.networkType = "" ∧ config.bind (·.networkType?) = none ∧
      ∃ t, (policy (config.getD .blank)).networkType? = some t ∧
        r = ⟨m.withNetworkType t, .defaulted⟩) := by
  by_cases hm : m.networkType = ""
  · cases hc : config.bind (·.networkType?) with
    | some t =>
      refine .inr (.inl ⟨hm, t, rfl, ?_⟩)
      simpa [resolve, hm, hc] using h.symm
    | none =>
      cases hp : (policy (config.getD .blank)).networkType? with
      | some t =>
        refine .inr (.inr ⟨hm, rfl, t, rfl, ?_⟩)
        simpa [resolve, hm, hc, hp] using h.symm
      | none => simp [resolve, hm, hc, hp] at h
  · refine .inl ⟨hm, ?_⟩
    rw [resolve_of_ne_empty hm] at h
    exact (Except.ok.inj h).symm

theorem exists_withNetworkType_of_resolve (h : m.resolve config policy = .ok r) :
    ∃ t, t ≠ "" ∧ r.manifest = m.withNetworkType t := by
  obtain ⟨hm, rfl⟩ | ⟨-, t, ht, rfl⟩ | ⟨-, -, t, ht, rfl⟩ := resolve_cases h
  · exact ⟨m.networkType, hm, rfl⟩
  · obtain ⟨c, -, hc⟩ := Option.bind_eq_some_iff.1 ht
    exact ⟨t, ne_empty_of_networkType? hc, rfl⟩
  · exact ⟨t, ne_empty_of_networkType? ht, rfl⟩

/-- Only the network types of the configuration and of what the policy makes of it are looked at,
and the latter only if there is need of it. -/
theorem resolve_congr {c c' : InstallConfig} {policy' : DefaultsPolicy}
    (htype : c'.networkType? = c.networkType?)
    (hpolicy : c.networkType? = none → (policy' c').networkType? = (policy c).networkType?)
    (m : Manifest) : m.resolve (some c') policy' = m.resolve (some c) policy := by
  simp only [resolve, Option.bind_some, Option.getD_some, htype]
  cases hc : c.networkType? with
  | some t => rfl
  | none => rw [hpolicy hc]

end Manifest

/-! ## Who is asked -/

/-- The text of the network type of a configuration; empty if it is not set. -/
def InstallConfig.networkTypeText (c : InstallConfig) : String :=
  (c.networking.map (·.networkType)).getD ""

theorem InstallConfig.networkType?_eq (c : InstallConfig) :
    c.networkType? = if c.networkTypeText = "" then none else some c.networkTypeText := by
  unfold networkType? networkTypeText
  cases c.networking with
  | none => rfl
  | some n => by_cases h : n.networkType = "" <;> simp [h, Option.filter]

namespace Manifest

/-- **Who may have a network type for a manifest**, in the order in which they are asked, and what
they have: the manifest, the configuration, and the policy, which is given a copy of the
configuration or a blank one. An empty text is no network type. -/
def offers (m : Manifest) (config : Option InstallConfig) (policy : DefaultsPolicy) :
    List (NetworkTypeSource × String) := [
  (.alreadySet, m.networkType),
  (.installConfig, (config.map (·.networkTypeText)).getD ""),
  (.defaulted, (policy (config.getD .blank)).networkTypeText)]

theorem resolve_eq (m : Manifest) (config : Option InstallConfig) (policy : DefaultsPolicy) :
    m.resolve config policy =
      match (m.offers config policy).find? (·.2 ≠ "") with
      | some (source, t) => .ok ⟨m.withNetworkType t, source⟩
      | none => .error .unresolvedNetworkType := by
  by_cases hm : m.networkType = ""
  · rcases config with _ | c
    · by_cases hp : (policy .blank).networkTypeText = "" <;>
        simp [resolve, offers, InstallConfig.networkType?_eq, hm, hp]
    · by_cases hc : c.networkTypeText = ""
      · by_cases hp : (policy c).networkTypeText = "" <;>
          simp [resolve, offers, InstallConfig.networkType?_eq, hm, hc, hp]
      · simp [resolve, offers, InstallConfig.networkType?_eq, hm, hc]
  · simp [resolve, offers, hm]

end Manifest

/-! ## One resolution after the other -/

namespace Resolution

/-- What a resolution is given besides the manifest. -/
structure Request where
  config : Option InstallConfig
  policy : DefaultsPolicy
  /-- What an announcement begins with. -/
  warning : String

/-- What a resolution does: the manifest after it, what is announced, and the answer. -/
structure Outcome where
  manifest : Manifest
  notices : List String
  result : Except ManifestError NetworkTypeSource

/-- Resolve the network type of a manifest in its place. If there is none, the manifest stays as it
was. -/
def Request.outcome (q : Request) (m : Manifest) : Outcome :=
  match m.resolve q.config q.policy with
  | .ok r => ⟨r.manifest, r.notices q.warning, .ok r.source⟩
  | .error e => ⟨m, [], .error e⟩

/-- What each of some resolutions does, one after the other on the same manifest. -/
def outcomes (m : Manifest) : List Request → List Outcome
  | [] => []
  | q :: later => q.outcome m :: outcomes (q.outcome m).manifest later

theorem Request.outcome_of_ne_empty {m : Manifest} (h : m.networkType ≠ "") (q : Request) :
    q.outcome m = ⟨m, [], .ok .alreadySet⟩ := by
  rw [outcome, Manifest.resolve_of_ne_empty h]
  rfl

/-- Nothing more happens to a manifest that has a network type. -/
theorem outcomes_of_ne_empty {m : Manifest} (h : m.networkType ≠ "") (later : List Request) :
    outcomes m later = later.map fun _ => ⟨m, [], .ok .alreadySet⟩ := by
  induction later with
  | nil => rfl
  | cons q later ih => rw [outcomes, q.outcome_of_ne_empty h, ih, List.map_cons]

theorem Request.outcome_of_find? {m : Manifest} {q : Request} {source : NetworkTypeSource}
    {t : String} (h : (m.offers q.config q.policy).find? (·.2 ≠ "") = some (source, t)) :
    q.outcome m = ⟨m.withNetworkType t,
      if source = .defaulted then [notice q.warning t] else [], .ok source⟩ := by
  rw [outcome, Manifest.resolve_eq, h]
  cases source <;> rfl

theorem Request.outcome_of_find?_eq_none {m : Manifest} {q : Request}
    (h : (m.offers q.config q.policy).find? (·.2 ≠ "") = none) :
    q.outcome m = ⟨m, [], .error .unresolvedNetworkType⟩ := by
  rw [outcome, Manifest.resolve_eq, h]

/-- **What comes of a resolution.** The first offer that is not empty is taken. Nothing else of the
manifest changes, and only what the policy offers is announced. If all offers are empty, and only
then, the resolution fails; the manifest stays as it was, and nothing is announced. After a
resolution that succeeds, no other one changes or announces anything, whatever it is given. -/
theorem outcome_law (m : Manifest) (q : Request) :
    let offers := m.offers q.config q.policy
    let o := q.outcome m
    (∀ source t, offers.find? (·.2 ≠ "") = some (source, t) →
      o.result = .ok source ∧
      o.manifest = { m with
        spec := { m.spec with networking := { m.spec.networking with networkType := t } } } ∧
      o.notices = if source = .defaulted then
        [q.warning ++ " Defaulting NetworkType to " ++ t ++ "."] else []) ∧
    (o.result = .error .unresolvedNetworkType ↔ ∀ offer ∈ offers, offer.2 = "") ∧
    (∀ e, o.result = .error e →
      e = .unresolvedNetworkType ∧ o.manifest = m ∧ o.notices = []) ∧
    (∀ source, o.result = .ok source →
      o.manifest.networkType ≠ "" ∧
      ∀ later, outcomes o.manifest later =
        later.map fun _ => ⟨o.manifest, [], .ok .alreadySet⟩) := by
  intro offers o
  cases hoffer : offers.find? (·.2 ≠ "") with
  | none =>
    have ho : o = ⟨m, [], .error .unresolvedNetworkType⟩ := Request.outcome_of_find?_eq_none hoffer
    have hempty : ∀ offer ∈ offers, offer.2 = "" := by
      simpa using List.find?_eq_none.1 hoffer
    rw [ho]
    refine ⟨?_, iff_of_true rfl hempty, ?_, ?_⟩
    · intro source t h
      cases h
    · intro e h
      obtain rfl := Except.error.inj h
      exact ⟨rfl, rfl, rfl⟩
    · intro source h
      cases h
  | some offer =>
    obtain ⟨source, t⟩ := offer
    have ho : o = ⟨m.withNetworkType t,
        if source = .defaulted then [notice q.warning t] else [], .ok source⟩ :=
      Request.outcome_of_find? hoffer
    have ht : t ≠ "" := by simpa using List.find?_some hoffer
    rw [ho]
    refine ⟨?_, iff_of_false nofun ?_, ?_, ?_⟩
    · rintro source' t' ⟨⟩
      exact ⟨rfl, rfl, rfl⟩
    · intro hempty
      exact ht (hempty _ (List.mem_of_find?_eq_some hoffer))
    · intro e h
      cases h
    · intro source' _
      exact ⟨ht, outcomes_of_ne_empty ht⟩

/-- A manifest without a network type. -/
def untyped : Manifest :=
  { Manifest.blank with
    kind := Manifest.objectKind
    spec := { Manifest.Spec.blank with sshPublicKey := "ssh-rsa AAAA", apiVip := some "10.0.0.1" } }

/-- A request with a configuration that has no network type either. -/
def untypedRequest (policy : DefaultsPolicy) : Request where
  config := some { InstallConfig.blank with
    networking := some ⟨"", [⟨"10.128.0.0/14", 23⟩], [], []⟩ }
  policy := policy
  warning := "No type."

theorem outcome_law_untyped :
    let calico : DefaultsPolicy := fun c =>
      { c with baseDomain := "", networking := some ⟨"Calico", [], ["10.0.0.0/8"], []⟩ }
    let o := (untypedRequest calico).outcome untyped
    let o' := (untypedRequest id).outcome untyped
    o.result = .ok .defaulted ∧ o.manifest = untyped.withNetworkType "Calico" ∧
      o.notices = ["No type. Defaulting NetworkType to Calico."] ∧
      outcomes o.manifest [untypedRequest Defaults.installer, untypedRequest id] =
        [⟨o.manifest, [], .ok .alreadySet⟩, ⟨o.manifest, [], .ok .alreadySet⟩] ∧
      o'.result = .error .unresolvedNetworkType ∧ o'.manifest = untyped ∧ o'.notices = [] := by
  intro calico o o'
  obtain ⟨htaken, -, -, hlater⟩ := outcome_law untyped (untypedRequest calico)
  obtain ⟨hresult, hmanifest, hnotices⟩ := htaken .defaulted "Calico" (by decide)
  obtain ⟨-, hfails, hkept, -⟩ := outcome_law untyped (untypedRequest id)
  have hfail : o'.result = .error .unresolvedNetworkType := hfails.2 (by decide)
  obtain ⟨-, hmanifest', hnotices'⟩ := hkept _ hfail
  exact ⟨hresult, hmanifest, hnotices.trans (by decide), (hlater _ hresult).2 _, hfail, hmanifest',
    hnotices'⟩

end Resolution
end InstallManifest
