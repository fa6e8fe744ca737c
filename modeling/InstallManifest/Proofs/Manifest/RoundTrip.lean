import InstallManifest.Proofs.Manifest.Keys
import InstallManifest.Proofs.Manifest.Modes
import InstallManifest.Proofs.Manifest.Restore
import InstallManifest.Proofs.Manifest.Writing
import InstallManifest.Proofs.Yaml.Document
import InstallManifest.Proofs.Yaml.Text

/-!
# Manifests as bytes

A manifest that has been written is decoded to itself, in both modes. Four facts meet in
`exists_decode`: what was found in the bytes has different keys throughout, so the fields of the
manifest are restored from it; its keys are in the table, so the strict mode reports nothing; it is
a mapping, so it is not null; and the text of a mapping is never blank.
-/
namespace InstallManifest
open Yaml Value

/-! ## Equality -/

theorem ManagedFields.same_refl (x : ManagedFields) : x.same x := by
  cases hx : x.fieldsV1 with
  | none => simp [ManagedFields.same, hx]
  | some p =>
    have hp : p.same p := p.json.same_refl
    simp [ManagedFields.same, hx, hp]

theorem ObjectMeta.same_refl (x : ObjectMeta) : x.same x := by
  cases hx : x.managedFields with
  | none => simp [ObjectMeta.same, hx]
  | some l =>
    have hzip : l.zip l = l.map fun a => (a, a) := List.zipWith_self
    simp [ObjectMeta.same, hx, hzip, ManagedFields.same_refl]

namespace Manifest

theorem same_of_isStatusOf {m : Manifest} {found : Option Value} (h : m.IsStatusOf found) :
    ({ m with status := found } : Manifest).same m := by
  cases hm : m.status with
  | none =>
    cases found with
    | none => simp [Manifest.same, ObjectMeta.same_refl, hm]
    | some w => simp [IsStatusOf, hm] at h
  | some v =>
    cases found with
    | none => simp [IsStatusOf, hm] at h
    | some w =>
      have hread : v.isReadAs w := by simpa [IsStatusOf, hm] using h
      simp [Manifest.same, ObjectMeta.same_refl, hm, same_of_isReadAs hread]

/-! ## Decoding what was encoded -/

/-- A manifest is written as a mapping with at least the keys for its metadata and specification. -/
theorem exists_toValue_eq (m : Manifest) : ∃ es, es ≠ [] ∧ m.toValue = map es := by
  refine ⟨_, ?_, rfl⟩
  intro hnil
  have hmetadata := List.filterMap_eq_nil_iff.1 hnil
    (.always "metadata" (·.metadata) (fun y x => { x with metadata := y }) ObjectMeta.record.codec)
    (by simp [record])
  simp [Field.always] at hmetadata

/-- **The bytes of a manifest hold the manifest**, with the status that was found in them. -/
theorem exists_decode {m : Manifest} (hm : m.IsExpressible) (hread : m.toValue.IsReadBack)
    {data : ByteArray} (hdata : m.encode = .ok data) :
    ∃ found, m.IsStatusOf found ∧ ∀ mode, decode mode data = .ok { m with status := found } := by
  obtain ⟨es, hne, hes⟩ := m.exists_toValue_eq
  -- The tree `w` that is found need not be the one that was written, but it shows the same.
  obtain ⟨w, hw, hfound⟩ := hread data hdata
  have hblank : isBlankBytes data = false := isBlankBytes_of_toBytes_map hne (hes ▸ hdata)
  have hnull : w.same .null = false := by
    obtain ⟨fs, rfl, -⟩ := exists_of_isReadAs_map (hes ▸ hfound)
    rfl
  have hknown : Keys.unknown [] w Keys.manifest = [] := m.admits_toValue.of_isReadAs hfound []
  obtain ⟨found, hstatus, hvalue⟩ := exists_ofValue hm ⟨hasDistinctKeys_of_ofBytes hw, hfound⟩
  exact ⟨found, hstatus, fun mode =>
    decode_eq_ok_iff.2 ⟨hblank, w, hw, hnull, hvalue, fun _ => hknown⟩⟩

/-- Without a status, nothing is left open. -/
theorem decode_of_status_eq_none {m : Manifest} (hm : m.metadata.IsExpressible)
    (hstatus : m.status = none) (hread : m.toValue.IsReadBack) {data : ByteArray}
    (hdata : m.encode = .ok data) (mode : ParseMode) : decode mode data = .ok m := by
  obtain ⟨found, hfound, hdecode⟩ := exists_decode ⟨hm, by simp [hstatus]⟩ hread hdata
  obtain rfl : found = none := by
    cases found <;> simp_all [IsStatusOf]
  rw [hdecode, ← hstatus]

/-- A manifest can be encoded exactly if its status has a text. -/
theorem exists_encode_iff {m : Manifest} :
    (∃ data, m.encode = .ok data) ↔ ∀ v, m.status = some v → ∃ s, v.text = .ok s := by
  have hencode : (∃ data, m.encode = .ok data) ↔ m.toValue.HasText := by
    simp [encode, toBytes_eq_ok_iff, HasText]
  refine hencode.trans (hasText_iff.trans ?_)
  simp only [Value.hasText_iff]

end Manifest

/-- Whether a point in time falls on a second. A leap second does. -/
def Time.Timestamp.IsWhole (t : Timestamp) : Prop := t.nanosecond % 1000000000 = 0

instance (t : Time.Timestamp) : Decidable t.IsWhole := inferInstanceAs (Decidable (_ = _))

namespace Manifest

/-- **Decoding inverts encoding.** Every manifest of which the status has a text can be encoded, and
both modes decode its bytes to an equal manifest, which can differ from it only in how its status is
written. Left out are a null status and a null payload, which stand for none, and fractions of a
second, which are not written. -/
theorem decode_encode_same {m : Manifest} (hstatus : m.status ≠ some .null)
    (hpayloads : ∀ p ∈ m.metadata.payloads, p.json ≠ .null)
    (hwhole : ∀ t ∈ m.metadata.times, t.IsWhole)
    (htimes : ∀ t ∈ m.metadata.times, t.IsWhole → Time.Timestamp.parse t.text = .ok t)
    (hread : m.toValue.IsReadBack) :
    ((∃ data, m.encode = .ok data) ↔ ∀ v, m.status = some v → ∃ s, v.text = .ok s) ∧
      ∀ data, m.encode = .ok data → ∃ m' : Manifest,
        (∀ mode, decode mode data = .ok m') ∧ m'.same m ∧ m' = { m with status := m'.status } := by
  refine ⟨exists_encode_iff, fun data hdata => ?_⟩
  have hmetadata : m.metadata.IsExpressible := ⟨fun t ht => htimes t ht (hwhole t ht), hpayloads⟩
  obtain ⟨found, hfound, hdecode⟩ := exists_decode ⟨hmetadata, hstatus⟩ hread hdata
  exact ⟨{ m with status := found }, hdecode, same_of_isStatusOf hfound, rfl⟩

/-- A manifest of an object that has been at work for a while: its fields were last set in a leap
second, and its status has a tag and a number that is none. -/
def observed : Manifest :=
  { blank with
    apiVersion := groupVersion
    kind := objectKind
    metadata := { ObjectMeta.blank with
      creationTimestamp := some ⟨736328, ⟨3600, by decide⟩, 0⟩
      generation := some (-1)
      labels := some (.ofList [("zone", "no"), ("agent", "")])
      managedFields := some [{ ManagedFields.blank with
        fieldsV1 := some ⟨.object [("f:spec", .object [])], rfl⟩
        time := some ⟨736329, ⟨86399, by decide⟩, 1000000000⟩ }]
      name := some "ostest" }
    spec := { Spec.blank with
      imageSetRef := some ⟨"openshift-4.14.0"⟩
      networking := ⟨[], [⟨"fd01::/48", 64⟩], ["null"], "", some false⟩
      sshPublicKey := "ssh-rsa key\n"
      provisionRequirements := ⟨3, 4294967295⟩ }
    status := some (.tagged "!seen" (.map [(.string "load", .number (.float .nan))])) }

theorem decode_encode_observed : ∃ data, observed.encode = .ok data ∧ ∃ m' : Manifest,
    (∀ mode, decode mode data = .ok m') ∧ m'.same observed := by
  obtain ⟨v, hv, hnull, hs⟩ : ∃ v, observed.status = some v ∧ v ≠ .null ∧ ∃ s, v.text = .ok s :=
    ⟨_, rfl, by simp, _, rfl⟩
  have hpayloads : ∀ p ∈ observed.metadata.payloads, p.json ≠ .null := by
    simp [observed, ObjectMeta.payloads]
  obtain ⟨hencode, hdecode⟩ := decode_encode_same (m := observed) (by simp [hv, hnull]) hpayloads
    (by decide) (by decide +kernel) (by decide +kernel)
  obtain ⟨data, hdata⟩ := hencode.2 (by simpa [hv] using hs)
  obtain ⟨m', hm', hsame, -⟩ := hdecode data hdata
  exact ⟨data, hdata, m', hm', hsame⟩

end Manifest
end InstallManifest
