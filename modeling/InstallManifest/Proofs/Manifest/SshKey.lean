import InstallManifest.Proofs.Config.Defaults
import InstallManifest.Proofs.Manifest.Build
import Mathlib.Data.List.DropRight

/-!
# Keys without their margins

A key that was pasted into a configuration may be wrapped in line ends, tabs and bars. The two ends
of it are trimmed one after the other, and where there is nothing but margin they meet. All the
same, what is left is determined by what it is: a bare key with margins around it, and no text has
two of these (`Manifest.Build.trimSshKey_eq_iff`). So no more margin can make a difference to a
manifest (`Manifest.sshKey_law`).
-/
namespace InstallManifest

/-- The configuration with another key. -/
def InstallConfig.withSshKey (c : InstallConfig) (key : String) : InstallConfig :=
  { c with sshKey := key }

namespace Manifest
namespace Build
variable {s key front back : String}

/-- The characters that a key may be wrapped in. -/
def keyMargins : List Char := ['|', '\n', '\t']

/-- Whether a text may stand around a key. -/
def IsMargin (s : String) : Prop := ∀ c ∈ s.toList, c ∈ keyMargins

/-- Whether a key neither starts nor ends with a margin. It may have the same characters inside. -/
def IsBare (key : String) : Prop :=
  (∀ c ∈ key.toList.head?, c ∉ keyMargins) ∧ ∀ c ∈ key.toList.getLast?, c ∉ keyMargins

-- The instances are named here: what the search finds may go through all characters there are.
instance (s : String) : Decidable (IsMargin s) :=
  List.decidableBAll (· ∈ keyMargins) s.toList

instance (key : String) : Decidable (IsBare key) :=
  @instDecidableAnd _ _ (Option.decidableForallMem key.toList.head?)
    (Option.decidableForallMem key.toList.getLast?)

theorem isKeyMargin_iff {c : Char} : isKeyMargin c = true ↔ c ∈ keyMargins := by
  simp [isKeyMargin, keyMargins, or_assoc]

theorem IsMargin.append (hs : IsMargin s) (hback : IsMargin back) : IsMargin (s ++ back) := by
  intro c hc
  rw [String.toList_append] at hc
  exact (List.mem_append.1 hc).elim (hs c) (hback c)

theorem toList_trimSshKey (s : String) :
    (trimSshKey s).toList = (s.toList.dropWhile isKeyMargin).rdropWhile isKeyMargin :=
  String.toList_ofList

/-- What the trimmed ends consist of. -/
theorem exists_margins (s : String) :
    ∃ front back, s = front ++ trimSshKey s ++ back ∧ IsMargin front ∧ IsMargin back := by
  let rest := s.toList.dropWhile isKeyMargin
  refine ⟨.ofList (s.toList.takeWhile isKeyMargin), .ofList (rest.rtakeWhile isKeyMargin), ?_, ?_,
    ?_⟩
  · refine String.toList_injective ?_
    rw [String.toList_append, String.toList_append, toList_trimSshKey, String.toList_ofList,
      String.toList_ofList, List.append_assoc, List.rdropWhile_append_rtakeWhile,
      List.takeWhile_append_dropWhile]
  · intro c hc
    rw [String.toList_ofList] at hc
    exact isKeyMargin_iff.1 (List.mem_takeWhile_imp hc)
  · intro c hc
    rw [String.toList_ofList] at hc
    exact isKeyMargin_iff.1 (List.mem_rtakeWhile_imp hc)

theorem isBare_trimSshKey (s : String) : IsBare (trimSshKey s) := by
  rw [IsBare, toList_trimSshKey]
  generalize hrest : s.toList.dropWhile isKeyMargin = rest
  constructor
  · intro c hc
    -- Trimming the end leaves the start as it is, unless nothing is left.
    obtain ⟨cut, hcut⟩ := List.rdropWhile_prefix isKeyMargin rest
    have hhead : rest.head? = some c := by
      rw [← hcut, List.head?_append, hc, Option.some_or]
    have hnot := List.head?_dropWhile_not isKeyMargin s.toList
    rw [hrest, hhead] at hnot
    simpa [← isKeyMargin_iff] using hnot
  · intro c hc
    have hnot := List.head?_dropWhile_not isKeyMargin rest.reverse
    rw [List.rdropWhile, List.getLast?_reverse, Option.mem_def] at hc
    rw [hc] at hnot
    simpa [← isKeyMargin_iff] using hnot

/-- Margins are trimmed off, and the trimming stops at a bare key. -/
theorem trimSshKey_of_isBare (hfront : IsMargin front) (hback : IsMargin back)
    (hkey : IsBare key) : trimSshKey (front ++ key ++ back) = key := by
  have hfrontAll : ∀ c ∈ front.toList, isKeyMargin c = true := fun c hc =>
    isKeyMargin_iff.2 (hfront c hc)
  have hbackAll : ∀ c ∈ back.toList, isKeyMargin c = true := fun c hc =>
    isKeyMargin_iff.2 (hback c hc)
  refine String.toList_injective ?_
  rw [toList_trimSshKey, String.toList_append, String.toList_append, List.append_assoc,
    List.dropWhile_append_of_pos hfrontAll]
  obtain ⟨hhead, hlast⟩ := hkey
  rcases hempty : key.toList with _ | ⟨first, rest⟩
  · -- The two ends meet: all of it is margin.
    rw [List.nil_append, List.dropWhile_eq_nil_iff.2 hbackAll, List.rdropWhile_nil]
  · have hfirst : ¬ isKeyMargin first = true := fun h =>
      hhead first (by simp [hempty]) (isKeyMargin_iff.1 h)
    rw [List.cons_append, List.dropWhile_cons_of_neg hfirst, ← List.cons_append, ← hempty,
      List.rdropWhile, List.reverse_append,
      List.dropWhile_append_of_pos fun c hc => hbackAll c (List.mem_reverse.1 hc)]
    refine List.rdropWhile_eq_self_iff.2 fun hne h => ?_
    exact hlast _ (List.getLast?_eq_getLast_of_ne_nil hne) (isKeyMargin_iff.1 h)

/-- **A trimmed key** is the bare key that a text has between margins, and there is only one. -/
theorem trimSshKey_eq_iff : trimSshKey s = key ↔
    ∃ front back, s = front ++ key ++ back ∧ IsMargin front ∧ IsMargin back ∧ IsBare key := by
  constructor
  · rintro rfl
    obtain ⟨front, back, hs, hfront, hback⟩ := exists_margins s
    exact ⟨front, back, hs, hfront, hback, isBare_trimSshKey s⟩
  · rintro ⟨front, back, rfl, hfront, hback, hkey⟩
    exact trimSshKey_of_isBare hfront hback hkey

theorem trimSshKey_trimSshKey (s : String) : trimSshKey (trimSshKey s) = trimSshKey s :=
  trimSshKey_eq_iff.2 ⟨"", "", by simp, by simp [IsMargin], by simp [IsMargin], isBare_trimSshKey s⟩

/-- More margin makes no difference. -/
theorem trimSshKey_append (hfront : IsMargin front) (hback : IsMargin back) (s : String) :
    trimSshKey (front ++ s ++ back) = trimSshKey s := by
  obtain ⟨front', back', hs, hfront', hback'⟩ := exists_margins s
  refine trimSshKey_eq_iff.2 ⟨front ++ front', back' ++ back, ?_, hfront.append hfront',
    hback'.append hback, isBare_trimSshKey s⟩
  conv_lhs => rw [hs]
  simp only [String.append_assoc]

/-- Nothing but the trimmed key gets into a draft. -/
theorem draft_of_trimSshKey {c : InstallConfig} (h : trimSshKey s = trimSshKey c.sshKey)
    (settings : Settings) : draft (c.withSshKey s) settings = draft c settings := by
  unfold draft InstallConfig.withSshKey
  rw [h]
  rfl

end Build
open Build

variable {c : InstallConfig} {settings : Settings} {policy : DefaultsPolicy} {r : Resolution}
  {front back : String}

theorem sshPublicKey_of_build (h : build c settings policy = .ok r) :
    r.manifest.spec.sshPublicKey = trimSshKey c.sshKey := by
  obtain ⟨m, t, api, ingress, hm, -, hmanifest⟩ := exists_draft_of_build h
  obtain ⟨control, workers, networking, -, -, -, rfl⟩ := exists_of_draft hm
  rw [hmanifest]
  rfl

/-- A manifest of the trimmed key is the manifest of the key, if the policy does not mind. -/
theorem build_of_trimSshKey {s : String} (h : trimSshKey s = trimSshKey c.sshKey)
    (hpolicy : c.networkType? = none →
      (policy (c.withSshKey s)).networkType? = (policy c).networkType?) :
    build (c.withSshKey s) settings policy = build c settings policy := by
  have htype : (c.withSshKey s).networkType? = c.networkType? := rfl
  have hresolve (m : Manifest) :
      m.resolve (some (c.withSshKey s)) policy = m.resolve (some c) policy :=
    resolve_congr htype hpolicy m
  have hvips : (c.withSshKey s).platform = c.platform := rfl
  simp only [build, draft_of_trimSshKey h, hresolve, hvips]

/-- **The key of a manifest** is that of its configuration, trimmed. A trimmed key is the one part
of a text that neither starts nor ends with a bar, a line end or a tab while nothing else is around
it. So trimming it again changes nothing, and a key with more of these around it gives the same one.
The rest of the manifest is the same, too, unless the policy chooses a network type by the key. -/
theorem sshKey_law :
    (∀ s key, trimSshKey s = key ↔
      ∃ front back, s = front ++ key ++ back ∧ IsMargin front ∧ IsMargin back ∧ IsBare key) ∧
    (∀ s, trimSshKey (trimSshKey s) = trimSshKey s) ∧
    (∀ c settings policy r, build c settings policy = .ok r →
      r.manifest.spec.sshPublicKey = trimSshKey c.sshKey ∧
      trimSshKey r.manifest.spec.sshPublicKey = r.manifest.spec.sshPublicKey) ∧
    ∀ (c : InstallConfig) front back, IsMargin front → IsMargin back →
      let c' := c.withSshKey (front ++ c.sshKey ++ back)
      (∀ settings settings' policy policy' r r', build c settings policy = .ok r →
        build c' settings' policy' = .ok r' →
          r'.manifest.spec.sshPublicKey = r.manifest.spec.sshPublicKey) ∧
      ∀ settings policy,
        (c.networkType? = none → (policy c').networkType? = (policy c).networkType?) →
          build c' settings policy = build c settings policy := by
  refine ⟨fun s key => trimSshKey_eq_iff, trimSshKey_trimSshKey, fun c settings policy r h => ?_,
    fun c front back hfront hback => ?_⟩
  · have hkey := sshPublicKey_of_build h
    exact ⟨hkey, by rw [hkey, trimSshKey_trimSshKey]⟩
  · have htrim : trimSshKey (front ++ c.sshKey ++ back) = trimSshKey c.sshKey :=
      trimSshKey_append hfront hback c.sshKey
    refine ⟨fun settings settings' policy policy' r r' h h' => ?_, fun settings policy hpolicy => ?_⟩
    · rw [sshPublicKey_of_build h, sshPublicKey_of_build h']
      exact htrim
    · exact build_of_trimSshKey htrim hpolicy

/-- A configuration for a single node, with a key that was pasted with what stood around it. -/
def pastedConfig : InstallConfig :=
  { InstallConfig.blank with
    controlPlane := some ⟨"master", some 1⟩
    sshKey := "|\n ssh-rsa A|B\tC \r\n" }

theorem sshKey_law_pasted :
    (∃ r, build pastedConfig .standard Defaults.installer = .ok r ∧
      r.manifest.spec.sshPublicKey = " ssh-rsa A|B\tC \r" ∧
      build (pastedConfig.withSshKey ("\t|" ++ pastedConfig.sshKey ++ "\n\n")) .standard
        Defaults.installer = .ok r) ∧
    trimSshKey "\t||\n" = "" := by
  obtain ⟨htrim, -, hbuilt, hwrapped⟩ := sshKey_law
  have hkey : trimSshKey pastedConfig.sshKey = " ssh-rsa A|B\tC \r" :=
    (htrim _ _).2 ⟨"|\n", "\n", by decide, by decide, by decide, by decide⟩
  obtain ⟨r, hbuild⟩ : ∃ r, build pastedConfig .standard Defaults.installer = .ok r := by
    decide +kernel
  obtain ⟨-, hagain⟩ := hwrapped pastedConfig "\t|" "\n\n" (by decide) (by decide)
  refine ⟨⟨r, hbuild, (hbuilt _ _ _ _ hbuild).1.trans hkey, ?_⟩, ?_⟩
  · rw [hagain _ _ fun _ => ?_, hbuild]
    rw [Defaults.networkType?_installer, Defaults.networkType?_installer]
    rfl
  · exact (htrim _ _).2 ⟨"\t||\n", "", by decide, by decide, by decide, by decide⟩

end Manifest
end InstallManifest
