import InstallManifest.Config.Reading
import InstallManifest.Proofs.Manifest.Restore
import InstallManifest.Proofs.Manifest.Writing
import InstallManifest.Proofs.Yaml.Place

/-!
# Configurations as bytes

A configuration that has been written is parsed to itself, if its cluster has a name. What could get
lost is the difference between a section that is not there and one that says nothing. It does not:
an absent section is left out, and an empty one is written as an empty mapping, which is never taken
for null. Where an empty text or list is left out, the reader starts from one.

Configurations are read straight from a document, so what has to be found in the bytes is what they
present (`Value.IsPresented`).
-/
namespace InstallManifest
open Yaml Value

namespace InstallConfig

/-! ## The parts of a configuration are restored -/

section Restoring
variable {σ : Type} [Source σ] {S : Showing σ}

theorem Metadata.restores (x : Metadata) : record.codec.Restores S x := by
  refine Record.restores (by simp [record, Field.always, Field.optional])
    (by simp [record, Field.always, Field.optional]) ?_
  refine .always (Codec.restores_string _) ?_
  refine .optionalString rfl ?_
  rfl

theorem MachinePool.restores (x : MachinePool) : record.codec.Restores S x := by
  refine Record.restores (by simp [record, Field.always, Field.optional])
    (by simp [record, Field.always, Field.optional]) ?_
  refine .always (Codec.restores_string _) ?_
  refine .optional rfl (by simp [Codec.uint32, Value.int]) (fun n _ => Codec.restores_uint32 n) ?_
  rfl

theorem Networking.restores (x : Networking) : record.codec.Restores S x := by
  refine Record.restores (by simp [record, Field.text, Field.list, Field.omitting, Field.always])
    (by simp [record, Field.text, Field.list, Field.omitting, Field.always]) ?_
  refine .text rfl ?_
  refine .list rfl (fun r _ => r.restores true) ?_
  refine .list rfl (fun s _ => Codec.restores_string s) ?_
  refine .list rfl (fun r _ => r.restores true) ?_
  rfl

theorem VipPlatform.restores (x : VipPlatform) : record.codec.Restores S x := by
  refine Record.restores
    (by simp [record, Field.list, Field.optional, Field.omitting, Field.always])
    (by simp [record, Field.list, Field.optional, Field.omitting, Field.always]) ?_
  refine .list rfl (fun s _ => Codec.restores_string s) ?_
  refine .list rfl (fun s _ => Codec.restores_string s) ?_
  refine .optionalString rfl ?_
  refine .optionalString rfl ?_
  rfl

theorem restores_noPlatform (x : Unit) : noPlatformRecord.codec.Restores S x :=
  Record.restores (by simp [noPlatformRecord]) (by simp [noPlatformRecord]) rfl

theorem Platform.restores (x : Platform) : record.codec.Restores S x := by
  refine Record.restores (by simp [record, Field.optional]) (by simp [record, Field.optional]) ?_
  refine .optional rfl (by simp [Record.codec, Record.toValue]) (fun p _ => p.restores) ?_
  refine .optional rfl (by simp [Record.codec, Record.toValue]) (fun p _ => p.restores) ?_
  refine .optional rfl (by simp [Record.codec, Record.toValue])
    (fun p _ => restores_noPlatform p) ?_
  -- The section for no platform is kept as whether it is there.
  obtain ⟨baremetal, vsphere, isNone⟩ := x
  cases isNone <;> rfl

/-- **A configuration is read from every source that shows it**, with each of its sections as it
is. -/
theorem restores (c : InstallConfig) : record.codec.Restores S c := by
  refine Record.restores
    (by simp [record, Field.text, Field.list, Field.optional, Field.omitting, Field.always])
    (by simp [record, Field.text, Field.list, Field.optional, Field.omitting, Field.always]) ?_
  refine .text rfl ?_
  refine .always (Metadata.restores _) ?_
  refine .text rfl ?_
  refine .optional rfl (by simp [Record.codec, Record.toValue]) (fun p _ => p.restores) ?_
  refine .list rfl (fun p _ => p.restores) ?_
  refine .optional rfl (by simp [Record.codec, Record.toValue]) (fun n _ => n.restores) ?_
  refine .always (Platform.restores _) ?_
  refine .text rfl ?_
  refine .text rfl ?_
  rfl

end Restoring

/-! ## Every configuration has a text -/

theorem Metadata.hasText (x : Metadata) : ((record (σ := Value)).toValue x).HasText := by
  refine Record.hasText ?_ x
  simp only [record, List.forall_mem_cons]
  exact ⟨.always fun _ => rfl, .optional fun _ => rfl, by simp⟩

theorem MachinePool.hasText (x : MachinePool) : ((record (σ := Value)).toValue x).HasText := by
  refine Record.hasText ?_ x
  simp only [record, List.forall_mem_cons]
  exact ⟨.always fun _ => rfl, .optional fun _ => rfl, by simp⟩

theorem Networking.hasText (x : Networking) : ((record (σ := Value)).toValue x).HasText := by
  refine Record.hasText ?_ x
  simp only [record, List.forall_mem_cons]
  exact ⟨.text, .omitting (Codec.hasText_list (ClusterRange.hasText true)),
    .omitting (Codec.hasText_list fun _ => rfl),
    .omitting (Codec.hasText_list (MachineRange.hasText true)), by simp⟩

theorem VipPlatform.hasText (x : VipPlatform) : ((record (σ := Value)).toValue x).HasText := by
  refine Record.hasText ?_ x
  simp only [record, List.forall_mem_cons]
  exact ⟨.omitting (Codec.hasText_list fun _ => rfl), .omitting (Codec.hasText_list fun _ => rfl),
    .optional fun _ => rfl, .optional fun _ => rfl, by simp⟩

theorem Platform.hasText (x : Platform) : ((record (σ := Value)).toValue x).HasText := by
  refine Record.hasText ?_ x
  simp only [record, List.forall_mem_cons]
  exact ⟨.optional VipPlatform.hasText, .optional VipPlatform.hasText, .optional fun _ => rfl,
    by simp⟩

theorem hasText (c : InstallConfig) : c.toValue.HasText := by
  refine Record.hasText ?_ c
  simp only [record, List.forall_mem_cons]
  exact ⟨.text, .always Metadata.hasText, .text, .optional MachinePool.hasText,
    .omitting (Codec.hasText_list MachinePool.hasText), .optional Networking.hasText,
    .always Platform.hasText, .text, .text, by simp⟩

/-! ## Parsing what was written -/

/-- What is written for a configuration does not depend on what it is to be read from. -/
theorem toValue_eq (c : InstallConfig) : c.toValue = (record (σ := Place)).toValue c := rfl

/-- **Parsing inverts writing**, except that a cluster has to have a name. -/
theorem parse_toBytes {c : InstallConfig} (h : c.toValue.IsPresented) :
    ∃ bytes, c.toValue.toBytes = .ok bytes ∧
      parse bytes =
        if c.metadata.name = "" then .error (.missingField "metadata.name") else .ok c := by
  obtain ⟨bytes, hbytes⟩ : ∃ bytes, c.toValue.toBytes = .ok bytes :=
    ⟨_, toBytes_eq_ok_iff.2 ⟨c.hasText, rfl⟩⟩
  obtain ⟨d, hd, hshows⟩ := h bytes hbytes
  rw [toValue_eq] at hshows
  have hread : record.read (Place.root d) = .ok c := c.restores (S := Place.showing) _ hshows
  refine ⟨bytes, hbytes, ?_⟩
  simp only [parse, Record.ofBytes, hd, bind, Except.bind, hread]

/-- A configuration with sections that say nothing beside sections that are not there, and with
texts that would mean something else if they were not quoted. -/
def sparse : InstallConfig where
  apiVersion := ""
  metadata := ⟨"null", some ""⟩
  baseDomain := "example.com"
  controlPlane := some ⟨"", none⟩
  compute := [⟨"~", some 4294967295⟩, ⟨"worker", some 0⟩]
  networking := some ⟨"", [⟨"fd01::/48", -2147483648⟩], ["", "172.30.0.0/16"], []⟩
  platform := ⟨some .blank, some ⟨[""], ["10.0.0.3"], some "12", some ""⟩, true⟩
  pullSecret := "\x7b\"auths\": \x7b\x7d\x7d"
  sshKey := "ssh-rsa key\n"

theorem parse_toBytes_sparse :
    (∃ bytes, sparse.toValue.toBytes = .ok bytes ∧ parse bytes = .ok sparse) ∧
      ∃ bytes, blank.toValue.toBytes = .ok bytes ∧
        parse bytes = .error (.missingField "metadata.name") := by
  constructor
  · obtain ⟨bytes, hbytes, hparse⟩ := parse_toBytes (c := sparse) (by decide +kernel)
    exact ⟨bytes, hbytes, hparse.trans (if_neg (by decide))⟩
  · obtain ⟨bytes, hbytes, hparse⟩ := parse_toBytes (c := blank) (by decide +kernel)
    exact ⟨bytes, hbytes, hparse.trans (if_pos rfl)⟩

end InstallConfig
end InstallManifest
