import InstallManifest.Manifest.Build
import InstallManifest.Proofs.Data.Result
import InstallManifest.Proofs.Net.Cidr

/-!
# The ranges of a manifest

Every range of a configuration is read in the way of its list (`RangeList.parse`) and written in its
one form. The ranges of the manifest are those forms, list by list and in order
(`Build.networking_ranges`). They are read as the ranges they are forms of, so nobody who looks at a
manifest judges a range otherwise than as the user wrote it.
-/
namespace InstallManifest
open Net

/-- How the text of a range is read in a list. Pods get their addresses from subnets. -/
def RangeList.parse : RangeList → String → Except CidrError Cidr
  | .cluster => Cidr.parseSubnet
  | .service | .machine => Cidr.parse

/-- The range with another text. -/
def ClusterRange.withCidr (r : ClusterRange) (text : String) : ClusterRange :=
  { r with cidr := text }

/-- The range with another text. -/
def MachineRange.withCidr (_ : MachineRange) (text : String) : MachineRange := ⟨text⟩

/-- The texts of the ranges of a list. -/
def InstallConfig.Networking.ranges (n : InstallConfig.Networking) : RangeList → List String
  | .cluster => n.clusterNetwork.map (·.cidr)
  | .service => n.serviceNetwork
  | .machine => n.machineNetwork.map (·.cidr)

/-- The texts of the ranges of a list; none if there is no networking section. -/
def InstallConfig.ranges (c : InstallConfig) : RangeList → List String :=
  (c.networking.getD .blank).ranges

/-- The texts of the ranges of a list. -/
def Manifest.Networking.ranges (n : Manifest.Networking) : RangeList → List String
  | .cluster => n.clusterNetwork.map (·.cidr)
  | .service => n.serviceNetwork
  | .machine => n.machineNetwork.map (·.cidr)

namespace RangeList

instance {p : RangeList → Prop} [DecidablePred p] : Decidable (∀ list, p list) :=
  decidable_of_iff (p .cluster ∧ p .service ∧ p .machine)
    ⟨fun ⟨hcluster, hservice, hmachine⟩ list => by cases list <;> assumption,
      fun h => ⟨h _, h _, h _⟩⟩

variable {list : RangeList} {text : String} {range : Cidr}

theorem parse_eq_ok_iff : list.parse text = .ok range ↔
    Cidr.parse text = .ok range ∧ (list = .cluster → range.validateSubnet = .ok ()) := by
  cases list with
  | cluster =>
    constructor
    · intro h
      obtain ⟨range', hparse, h⟩ := Result.exists_of_bind h
      obtain ⟨⟨⟩, hsubnet, h⟩ := Result.exists_of_bind h
      obtain rfl : range' = range := Except.ok.inj h
      exact ⟨hparse, fun _ => hsubnet⟩
    · rintro ⟨hparse, hsubnet⟩
      simp [parse, Cidr.parseSubnet, hparse, hsubnet rfl, bind, Except.bind, pure, Except.pure]
  | service => simp [parse]
  | machine => simp [parse]

/-- The one form of a range is read as the range, in whichever list. -/
theorem parse_text (h : list.parse text = .ok range) : list.parse range.text = .ok range :=
  parse_eq_ok_iff.2 ⟨Cidr.parse_text range, (parse_eq_ok_iff.1 h).2⟩

end RangeList

namespace Manifest.Build
variable {list : RangeList} {text form : String} {e : ManifestError}

theorem canonicalRange_eq (list : RangeList) (text : String) :
    canonicalRange list text =
      ((list.parse text).map (·.text)).mapError (.invalidRange list text) := by
  have hparse : (if list = .cluster then Cidr.parseSubnet text else Cidr.parse text) =
      list.parse text := by cases list <;> rfl
  unfold canonicalRange
  rw [hparse]
  cases list.parse text <;> rfl

theorem canonicalRange_eq_ok_iff : canonicalRange list text = .ok form ↔
    ∃ range, list.parse text = .ok range ∧ range.text = form := by
  rw [canonicalRange_eq]
  cases list.parse text <;> simp [Except.map]

theorem canonicalRange_eq_error_iff : canonicalRange list text = .error e ↔
    ∃ cause, list.parse text = .error cause ∧ .invalidRange list text cause = e := by
  rw [canonicalRange_eq]
  cases list.parse text <;> simp [Except.map]

/-! ## The networking part -/

/-- The computation of an entry of which the text is replaced by its one form. -/
theorem canonical_eq_ok_iff {α : Type} {x y : α} {get : α → String} {set : String → α} :
    (do return set (← canonicalRange list (get x)) : Except ManifestError α) = .ok y ↔
      ∃ range, list.parse (get x) = .ok range ∧ set range.text = y := by
  rw [canonicalRange_eq]
  cases list.parse (get x) <;> simp [Except.map, bind, Except.bind, pure, Except.pure]

theorem canonical_eq_error_iff {α : Type} {x : α} {get : α → String} {set : String → α} :
    (do return set (← canonicalRange list (get x)) : Except ManifestError α) = .error e ↔
      ∃ cause, list.parse (get x) = .error cause ∧ .invalidRange list (get x) cause = e := by
  rw [canonicalRange_eq]
  cases list.parse (get x) <;> simp [Except.map, bind, Except.bind, pure, Except.pure]

variable {n : InstallConfig.Networking} {m : Networking}

theorem networking_eq (n : InstallConfig.Networking) : networking n = do
    let clusters ← n.clusterNetwork.mapM fun r => do
      return r.withCidr (← canonicalRange .cluster r.cidr)
    let services ← n.serviceNetwork.mapM (canonicalRange .service)
    let machines ← n.machineNetwork.mapM fun r => do
      return r.withCidr (← canonicalRange .machine r.cidr)
    return ⟨machines, clusters, services, "", none⟩ := rfl

/-- **The networking part, entry by entry**: each entry with the text of its range in its one
form. -/
theorem networking_eq_ok_iff : networking n = .ok m ↔
    List.Forall₂ (fun r s => ∃ range, RangeList.cluster.parse r.cidr = .ok range ∧
      r.withCidr range.text = s) n.clusterNetwork m.clusterNetwork ∧
    List.Forall₂ (fun text form => ∃ range, RangeList.service.parse text = .ok range ∧
      range.text = form) n.serviceNetwork m.serviceNetwork ∧
    List.Forall₂ (fun r s => ∃ range, RangeList.machine.parse r.cidr = .ok range ∧
      r.withCidr range.text = s) n.machineNetwork m.machineNetwork ∧
    m.networkType = "" ∧ m.userManagedNetworking = none := by
  rw [networking_eq]
  simp only [← canonicalRange_eq_ok_iff, ← canonical_eq_ok_iff, ← Result.mapM_eq_ok_iff]
  constructor
  · intro h
    obtain ⟨clusters, hclusters, h⟩ := Result.exists_of_bind h
    obtain ⟨services, hservices, h⟩ := Result.exists_of_bind h
    obtain ⟨machines, hmachines, h⟩ := Result.exists_of_bind h
    obtain rfl := Except.ok.inj h
    exact ⟨hclusters, hservices, hmachines, rfl, rfl⟩
  · rintro ⟨hclusters, hservices, hmachines, htype, hmanaged⟩
    obtain ⟨machines, clusters, services, networkType, managed⟩ := m
    obtain rfl : networkType = "" := htype
    obtain rfl : managed = none := hmanaged
    rw [hclusters, hservices, hmachines]
    rfl

/-- **The ranges of a manifest** are the one forms of those of its configuration, in order. -/
theorem networking_ranges (h : networking n = .ok m) (list : RangeList) :
    List.Forall₂ (fun text form => ∃ range, list.parse text = .ok range ∧ range.text = form)
      (n.ranges list) (m.ranges list) := by
  obtain ⟨hclusters, hservices, hmachines, -, -⟩ := networking_eq_ok_iff.1 h
  cases list with
  | cluster =>
    rw [InstallConfig.Networking.ranges, Networking.ranges, List.forall₂_map_left_iff,
      List.forall₂_map_right_iff]
    refine hclusters.imp fun r s hrs => ?_
    obtain ⟨range, hrange, rfl⟩ := hrs
    exact ⟨range, hrange, rfl⟩
  | service => exact hservices
  | machine =>
    rw [InstallConfig.Networking.ranges, Networking.ranges, List.forall₂_map_left_iff,
      List.forall₂_map_right_iff]
    refine hmachines.imp fun r s hrs => ?_
    obtain ⟨range, hrange, rfl⟩ := hrs
    exact ⟨range, hrange, rfl⟩

/-- Apart from its ranges, the networking part has the host prefixes of the configuration. -/
theorem networking_rest (h : networking n = .ok m) :
    m.clusterNetwork.map (·.hostPrefix) = n.clusterNetwork.map (·.hostPrefix) ∧
      m.networkType = "" ∧ m.userManagedNetworking = none := by
  obtain ⟨hclusters, -, -, hrest⟩ := networking_eq_ok_iff.1 h
  refine ⟨?_, hrest⟩
  rw [eq_comm, ← List.forall₂_eq_eq_eq, List.forall₂_map_left_iff, List.forall₂_map_right_iff]
  refine hclusters.imp fun r s hrs => ?_
  obtain ⟨range, -, rfl⟩ := hrs
  rfl

/-- A failure is that of a range which cannot be read in the way of its list. -/
theorem exists_of_networking_eq_error (h : networking n = .error e) :
    ∃ list, ∃ text ∈ n.ranges list, ∃ cause,
      list.parse text = .error cause ∧ .invalidRange list text cause = e := by
  obtain h | ⟨clusters, -, h⟩ := Result.bind_eq_error h
  · obtain ⟨r, hr, hfail⟩ := Result.exists_of_mapM_eq_error h
    exact ⟨.cluster, r.cidr, List.mem_map.2 ⟨r, hr, rfl⟩, canonical_eq_error_iff.1 hfail⟩
  obtain h | ⟨services, -, h⟩ := Result.bind_eq_error h
  · obtain ⟨text, htext, hfail⟩ := Result.exists_of_mapM_eq_error h
    exact ⟨.service, text, htext, canonicalRange_eq_error_iff.1 hfail⟩
  obtain h | ⟨machines, -, h⟩ := Result.bind_eq_error h
  · obtain ⟨r, hr, hfail⟩ := Result.exists_of_mapM_eq_error h
    exact ⟨.machine, r.cidr, List.mem_map.2 ⟨r, hr, rfl⟩, canonical_eq_error_iff.1 hfail⟩
  cases h

/-- **There is a networking part exactly if every range can be read** in the way of its list. -/
theorem exists_networking_iff :
    (∃ m, networking n = .ok m) ↔
      ∀ list, ∀ text ∈ n.ranges list, ∃ range, list.parse text = .ok range := by
  constructor
  · rintro ⟨m, hm⟩ list
    have hranges : List.Forall₂ (fun text _ => (∃ range, list.parse text = .ok range) ∧ True)
        (n.ranges list) (m.ranges list) :=
      (networking_ranges hm list).imp fun _ _ ⟨range, hrange, _⟩ => ⟨⟨range, hrange⟩, trivial⟩
    exact ((List.forall₂_and_left _ _).1 hranges).1
  · intro h
    cases hn : networking n with
    | ok m => exact ⟨m, rfl⟩
    | error e =>
      obtain ⟨list, text, htext, cause, hfail, -⟩ := exists_of_networking_eq_error hn
      obtain ⟨range, hrange⟩ := h list text htext
      rw [hfail] at hrange
      cases hrange

/-- Every range of a manifest is in its one form. -/
theorem exists_range_of_mem (h : networking n = .ok m) (hform : form ∈ m.ranges list) :
    ∃ range, list.parse form = .ok range ∧ range.text = form := by
  have hranges : List.Forall₂ (fun form _ => (∃ range, list.parse form = .ok range ∧
      range.text = form) ∧ True) (m.ranges list) (n.ranges list) := by
    refine ((networking_ranges h list).imp fun text form hform => ?_).flip
    obtain ⟨range, hrange, rfl⟩ := hform
    exact ⟨⟨range, RangeList.parse_text hrange, rfl⟩, trivial⟩
  exact ((List.forall₂_and_left _ _).1 hranges).1 form hform

/-- **No range changes its family** when it is written in its one form. -/
theorem classify_ranges (h : networking n = .ok m) (list : RangeList) :
    (m.ranges list).map Cidr.classify = (n.ranges list).map Cidr.classify := by
  rw [eq_comm, ← List.forall₂_eq_eq_eq, List.forall₂_map_left_iff, List.forall₂_map_right_iff]
  refine (networking_ranges h list).imp fun text form hform => ?_
  obtain ⟨range, hrange, rfl⟩ := hform
  rw [Cidr.classify_text, Cidr.classify, (RangeList.parse_eq_ok_iff.1 hrange).1]
  rfl

end Manifest.Build
end InstallManifest
