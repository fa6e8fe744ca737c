import InstallManifest.Proofs.Manifest.Obstacles

/-!
# Counting workers

The builder counts workers pool by pool and stays at the greatest count once that is reached. It
could be feared that the outcome depends on where this happens. It does not: a count that stops is
the exact number of machines, cut off once at the end (`Build.workerAgents_of_counted`). So neither
the order of the pools nor the way in which they are put together matters, and more machines never
make a smaller count (`Manifest.workers_law`). That a pool does not say how many machines it has is
noticed all the same, because the count goes on after it has stopped growing.
-/
namespace InstallManifest
open InstallConfig

namespace InstallConfig

/-- The number of machines that pools have together, however great it is. A pool that does not say
how many it has adds none. -/
def headcount : List MachinePool → Nat
  | [] => 0
  | p :: pools => (p.replicas.map UInt32.toNat).getD 0 + headcount pools

/-- Whether another pool says how many machines it has, and has no fewer. -/
def MachinePool.IsGrownTo (p p' : MachinePool) : Prop :=
  ∀ n, p.replicas = some n → ∃ n', p'.replicas = some n' ∧ n ≤ n'

theorem headcount_append (pools pools' : List MachinePool) :
    headcount (pools ++ pools') = headcount pools + headcount pools' := by
  induction pools with
  | nil => simp [headcount]
  | cons p pools ih => simp only [List.cons_append, headcount, ih, Nat.add_assoc]

theorem headcount_perm {pools pools' : List MachinePool} (h : pools.Perm pools') :
    headcount pools = headcount pools' := by
  induction h with
  | nil => rfl
  | cons p _ ih => simp only [headcount, ih]
  | swap p q pools => simp only [headcount, Nat.add_left_comm]
  | trans _ _ ih ih' => exact ih.trans ih'

/-- Pools that are added or grow do not make the number of machines smaller. -/
theorem headcount_le {pools pools' : List MachinePool}
    (h : List.SublistForall₂ MachinePool.IsGrownTo pools pools') :
    headcount pools ≤ headcount pools' := by
  induction h with
  | nil => exact Nat.zero_le _
  | @cons p p' pools pools' hp _ ih =>
    have hcount : (p.replicas.map UInt32.toNat).getD 0 ≤ (p'.replicas.map UInt32.toNat).getD 0 := by
      cases hn : p.replicas with
      | none => exact Nat.zero_le _
      | some n =>
        obtain ⟨n', hn', hle⟩ := hp n hn
        rw [hn']
        exact UInt32.le_iff_toNat_le.1 hle
    exact Nat.add_le_add hcount ih
  | cons_right _ ih => exact Nat.le_trans ih (Nat.le_add_left _ _)

end InstallConfig

namespace Manifest
namespace Build

/-! ## One cut at the end -/

/-- A number of machines as it is counted: the greatest count stands for all that are greater. -/
def clamp (n : Nat) : UInt32 := UInt32.ofNat (min n (Width.count 32 - 1))

theorem toNat_clamp (n : Nat) : (clamp n).toNat = min n (Width.count 32 - 1) := by
  have hfits : min n (Width.count 32 - 1) < UInt32.size :=
    Nat.lt_of_le_of_lt (Nat.min_le_right _ _) (by decide)
  exact UInt32.toNat_ofNat_of_lt hfits

theorem clamp_toNat (n : UInt32) : clamp n.toNat = n := by
  apply UInt32.toNat_inj.1
  rw [toNat_clamp]
  exact Nat.min_eq_left (Nat.le_sub_one_of_lt n.toNat_lt)

/-- To be cut off twice is to be cut off once. -/
theorem addSaturating_clamp (m n : Nat) : addSaturating (clamp m) (clamp n) = clamp (m + n) := by
  apply UInt32.toNat_inj.1
  show (clamp ((clamp m).toNat + (clamp n).toNat)).toNat = _
  simp only [toNat_clamp]
  omega

theorem clamp_le_clamp {m n : Nat} (h : m ≤ n) : clamp m ≤ clamp n := by
  rw [UInt32.le_iff_toNat_le, toNat_clamp, toNat_clamp]
  omega

/-- **The machines of all pools are counted**, on top of what was counted before, and cut off
once. -/
theorem workerAgents_of_counted {pools : List MachinePool}
    (h : ∀ p ∈ pools, ∃ n, p.replicas = some n) (m : Nat) :
    workerAgents (clamp m) pools = .ok (clamp (m + headcount pools)) := by
  -- On the pools, for every number in front of them: it may have been cut off already.
  induction pools generalizing m with
  | nil => rfl
  | cons p pools ih =>
    obtain ⟨hp, hpools⟩ := List.forall_mem_cons.1 h
    obtain ⟨n, hn⟩ := hp
    have hadd : addSaturating (clamp m) n = clamp (m + n.toNat) := by
      rw [← addSaturating_clamp, clamp_toNat]
    simp only [workerAgents, headcount, hn, hadd, ih hpools, Option.map_some, Option.getD_some,
      Nat.add_assoc]

theorem workerAgents_zero {pools : List MachinePool}
    (h : ∀ p ∈ pools, ∃ n, p.replicas = some n) :
    workerAgents 0 pools = .ok (clamp (headcount pools)) := by
  have hcount := workerAgents_of_counted h 0
  rwa [Nat.zero_add] at hcount

/-- Pools are counted exactly if all of them say how many machines they have. -/
theorem exists_workerAgents_iff {pools : List MachinePool} (total : UInt32) :
    (∃ n, workerAgents total pools = .ok n) ↔ ∀ p ∈ pools, ∃ n, p.replicas = some n := by
  rw [← Result.failure?_eq_none_iff, failure?_workerAgents, List.head?_eq_none_iff,
    poolObstacles_eq_nil_iff]

/-- Counts of parts that are added up, one part after the other. -/
theorem foldl_addSaturating (parts : List (List MachinePool)) (m : Nat) :
    (parts.map fun part => clamp (headcount part)).foldl addSaturating (clamp m) =
      clamp (m + headcount parts.flatten) := by
  induction parts generalizing m with
  | nil => rfl
  | cons part parts ih =>
    rw [List.map_cons, List.foldl_cons, addSaturating_clamp, ih, List.flatten_cons,
      headcount_append, Nat.add_assoc]

end Build
open Build

variable {c c' : InstallConfig} {settings settings' : Settings} {policy policy' : DefaultsPolicy}
  {r r' : Resolution}

/-! ## The workers of a manifest -/

def workers (m : Manifest) : UInt32 := m.spec.provisionRequirements.workerAgents

theorem workers_of_build (h : build c settings policy = .ok r) :
    (∀ p ∈ c.compute, ∃ n, p.replicas = some n) ∧
      r.manifest.workers = clamp (headcount c.compute) := by
  obtain ⟨m, t, api, ingress, hm, -, hmanifest⟩ := exists_draft_of_build h
  obtain ⟨control, n, networking, -, hworkers, -, rfl⟩ := exists_of_draft hm
  have hcounted := (exists_workerAgents_iff 0).1 ⟨n, hworkers⟩
  refine ⟨hcounted, ?_⟩
  rw [hmanifest]
  rw [workerAgents_zero hcounted] at hworkers
  exact (Except.ok.inj hworkers).symm

theorem exists_totals_of_build (h : build c settings policy = .ok r)
    {parts : List (List MachinePool)} (hparts : parts.flatten = c.compute) :
    ∃ totals, parts.mapM (workerAgents 0) = .ok totals ∧
      totals.foldl addSaturating 0 = r.manifest.workers := by
  obtain ⟨hcounted, hworkers⟩ := workers_of_build h
  refine ⟨parts.map fun part => clamp (headcount part), ?_, ?_⟩
  · rw [Result.mapM_eq_ok_iff, List.forall₂_map_right_iff, List.forall₂_same]
    intro part hpart
    refine workerAgents_zero fun p hp => hcounted p ?_
    rw [← hparts]
    exact List.mem_flatten_of_mem hpart hp
  · have hfold := foldl_addSaturating parts 0
    rw [Nat.zero_add, hparts, ← hworkers] at hfold
    exact hfold

/-- The first pool that does not say how many machines it has is what the builder stumbles on, if
nothing is wrong with the control plane. -/
theorem build_of_uncounted {n : UInt32} (hcontrol : c.controlPlaneReplicas? = some n)
    {front back : List MachinePool} {p : MachinePool} (hcompute : c.compute = front ++ p :: back)
    (hfront : ∀ q ∈ front, ∃ n, q.replicas = some n) (hp : p.replicas = none)
    (settings : Settings) (policy : DefaultsPolicy) :
    build c settings policy = .error (.missingReplicas p.name) := by
  have hplane : c.controlPlaneObstacles = [] := controlPlaneObstacles_eq_nil_iff.2 ⟨n, hcontrol⟩
  have hnone : poolObstacles front = [] := poolObstacles_eq_nil_iff.2 hfront
  have hpools : poolObstacles c.compute = .missingReplicas p.name :: poolObstacles back := by
    have hsplit : poolObstacles c.compute = poolObstacles front ++ poolObstacles (p :: back) := by
      simp [poolObstacles, hcompute]
    rw [hsplit, hnone]
    simp [poolObstacles, hp]
  rw [← Result.failure?_eq_some_iff, failure?_build, obstacles, hplane, hpools]
  rfl

/-- **The number of workers.** Workers can be counted exactly if every pool says how many machines
it has. The manifest then has the exact sum, or the greatest count if the sum is greater. It has the
same number whatever the order of the pools is, and if parts of them are counted first and then
added, one after the other; and it has no smaller number if pools are added or grow. If a pool does
not say how many machines it has, and the control plane does, the first such pool is reported, no
matter how many machines are in front of it. -/
theorem workers_law (c : InstallConfig) (settings : Settings) (policy : DefaultsPolicy) :
    ((∃ n, workerAgents 0 c.compute = .ok n) ↔ ∀ p ∈ c.compute, ∃ n, p.replicas = some n) ∧
    (∀ r, build c settings policy = .ok r →
      r.manifest.workers.toNat =
        (if headcount c.compute < Width.count 32 then headcount c.compute
        else Width.count 32 - 1) ∧
      (∀ parts : List (List MachinePool), parts.flatten = c.compute →
        ∃ totals, parts.mapM (workerAgents 0) = .ok totals ∧
          totals.foldl addSaturating 0 = r.manifest.workers) ∧
      ∀ c' settings' policy' r', build c' settings' policy' = .ok r' →
        (c'.compute.Perm c.compute → r'.manifest.workers = r.manifest.workers) ∧
        (List.SublistForall₂ MachinePool.IsGrownTo c.compute c'.compute →
          r.manifest.workers ≤ r'.manifest.workers)) ∧
    ((∃ n, c.controlPlaneReplicas? = some n) → (∃ p ∈ c.compute, p.replicas = none) →
      ∃ front p back, c.compute = front ++ p :: back ∧
        (∀ q ∈ front, ∃ n, q.replicas = some n) ∧ p.replicas = none ∧
        build c settings policy = .error (.missingReplicas p.name)) := by
  refine ⟨exists_workerAgents_iff 0, ?_, ?_⟩
  · intro r hr
    obtain ⟨-, hworkers⟩ := workers_of_build hr
    refine ⟨?_, fun parts hparts => exists_totals_of_build hr hparts, ?_⟩
    · rw [hworkers, toNat_clamp]
      split <;> omega
    · intro c' settings' policy' r' hr'
      obtain ⟨-, hworkers'⟩ := workers_of_build hr'
      rw [hworkers, hworkers']
      exact ⟨fun hperm => congrArg clamp (headcount_perm hperm),
        fun hgrown => clamp_le_clamp (headcount_le hgrown)⟩
  · rintro ⟨n, hcontrol⟩ ⟨q, hq, hqnone⟩
    have hsome : (c.compute.find? (·.replicas.isNone)).isSome :=
      List.find?_isSome.2 ⟨q, hq, by rw [hqnone]; rfl⟩
    obtain ⟨p, hfirst⟩ := Option.isSome_iff_exists.1 hsome
    obtain ⟨hp, front, back, hcompute, hcounted⟩ := List.find?_eq_some_iff_append.1 hfirst
    have hfront : ∀ q ∈ front, ∃ n, q.replicas = some n := fun q hq =>
      Option.isSome_iff_exists.1 (by simpa using hcounted q hq)
    have hpnone : p.replicas = none := Option.isNone_iff_eq_none.1 hp
    exact ⟨front, p, back, hcompute, hfront, hpnone,
      build_of_uncounted hcontrol hcompute hfront hpnone settings policy⟩

/-- A configuration with a control plane, pools of workers and nothing else. -/
def withPools (pools : List MachinePool) : InstallConfig :=
  { InstallConfig.blank with controlPlane := some ⟨"master", some 1⟩, compute := pools }

theorem workers_law_greatest :
    let full : List MachinePool := [⟨"a", some 4294967290⟩, ⟨"b", some 9⟩]
    ∃ r r' r'', build (withPools full) .standard Defaults.installer = .ok r ∧
      build (withPools full.reverse) .standard Defaults.installer = .ok r' ∧
      build (withPools [⟨"a", some 4294967290⟩, ⟨"", some 0⟩, ⟨"b", some 10⟩]) .standard
        Defaults.installer = .ok r'' ∧
      r.manifest.workers.toNat = 4294967295 ∧ r'.manifest.workers = r.manifest.workers ∧
      r.manifest.workers ≤ r''.manifest.workers ∧
      (∃ totals, [full, [], []].mapM (workerAgents 0) = .ok totals ∧
        totals.foldl addSaturating 0 = r.manifest.workers) ∧
      build (withPools (full ++ [⟨"edge", none⟩, ⟨"c", some 1⟩])) .standard Defaults.installer =
        .error (.missingReplicas "edge") := by
  intro full
  obtain ⟨r, hr⟩ : ∃ r, build (withPools full) .standard Defaults.installer = .ok r := by
    decide +kernel
  obtain ⟨r', hr'⟩ : ∃ r, build (withPools full.reverse) .standard Defaults.installer = .ok r := by
    decide +kernel
  obtain ⟨r'', hr''⟩ : ∃ r, build (withPools [⟨"a", some 4294967290⟩, ⟨"", some 0⟩, ⟨"b", some 10⟩])
      .standard Defaults.installer = .ok r := by
    decide +kernel
  obtain ⟨-, hbuilt, -⟩ := workers_law (withPools full) .standard Defaults.installer
  obtain ⟨hcount, hparts, hothers⟩ := hbuilt r hr
  have hgrown : List.SublistForall₂ MachinePool.IsGrownTo (withPools full).compute
      [⟨"a", some 4294967290⟩, ⟨"", some 0⟩, ⟨"b", some 10⟩] := by
    refine .cons (by simp [MachinePool.IsGrownTo]) (.cons_right (.cons ?_ .nil))
    simp [MachinePool.IsGrownTo]
  obtain ⟨-, -, hmissing⟩ :=
    workers_law (withPools (full ++ [⟨"edge", none⟩, ⟨"c", some 1⟩])) .standard Defaults.installer
  obtain ⟨front, p, back, hcompute, -, hp, hfail⟩ :=
    hmissing ⟨1, rfl⟩ ⟨⟨"edge", none⟩, by decide, rfl⟩
  have hname : ∀ p ∈ full ++ [⟨"edge", none⟩, ⟨"c", some 1⟩], p.replicas = none →
      p.name = "edge" := by
    decide
  have hmem : p ∈ (withPools (full ++ [⟨"edge", none⟩, ⟨"c", some 1⟩])).compute := by
    rw [hcompute]
    simp
  rw [hname p hmem hp] at hfail
  exact ⟨r, r', r'', hr, hr', hr'', hcount.trans (by decide),
    (hothers _ _ _ r' hr').1 (List.reverse_perm full), (hothers _ _ _ r'' hr'').2 hgrown,
    hparts [full, [], []] rfl, hfail⟩

end Manifest
end InstallManifest
