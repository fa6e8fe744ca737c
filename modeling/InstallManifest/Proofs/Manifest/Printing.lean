import InstallManifest.Proofs.Manifest.RoundTrip
import InstallManifest.Proofs.Yaml.Printing

/-!
# What is lost when a manifest is printed

A time is printed to the second, and a status is printed without the marks of its tags. A manifest
has the same text without what is lost (`Manifest.toValue_whole`, `Manifest.alike_toValue`).
-/
namespace InstallManifest
open Yaml Value

namespace Yaml.Record
variable {α : Type} {r : Record Value α} {x y : α}

theorem toValue_congr (h : ∀ f ∈ r.fields, f.write x = f.write y) : r.toValue x = r.toValue y :=
  congrArg Value.map (List.filterMap_congr fun f hf => by rw [h f hf])

theorem alike_written {fs : List (Field Value α)}
    (h : ∀ f ∈ fs, Option.Rel Alike (f.write x) (f.write y)) :
    Alike.Entries (written fs x) (written fs y) := by
  induction fs with
  | nil => exact .nil
  | cons f fs ih =>
    obtain ⟨hf, hfs⟩ := List.forall_mem_cons.1 h
    rw [written_cons, written_cons]
    refine List.rel_append ?_ (ih hfs)
    generalize f.write x = v at hf
    generalize f.write y = w at hf
    cases hf with
    | none => exact .nil
    | some hvalue => exact .cons ⟨.refl _, hvalue⟩ .nil

/-- A record is printed like another one if its fields are. -/
theorem alike_toValue (h : ∀ f ∈ r.fields, Option.Rel Alike (f.write x) (f.write y)) :
    Alike (r.toValue x) (r.toValue y) := .map (alike_written h)

end Yaml.Record

/-! ## Times -/

/-- The point in time to the second. A leap second stays one. -/
def Time.Timestamp.whole (t : Timestamp) : Timestamp :=
  { t with nanosecond := t.nanosecond / 1000000000 * 1000000000 }

@[simp] theorem Time.Timestamp.text_whole (t : Timestamp) : t.whole.text = t.text := by
  simp [text, whole]

namespace ManagedFields

/-- Managed fields with their time to the second. -/
def whole (x : ManagedFields) : ManagedFields := { x with time := x.time.map (·.whole) }

theorem toValue_whole (x : ManagedFields) : record.toValue x.whole = record.toValue x := by
  refine Record.toValue_congr ?_
  simp [record, Field.optional, whole, Codec.time, Function.comp_def]

end ManagedFields

namespace ObjectMeta

/-- Metadata with all times to the second. -/
def whole (x : ObjectMeta) : ObjectMeta :=
  { x with
    creationTimestamp := x.creationTimestamp.map (·.whole)
    deletionTimestamp := x.deletionTimestamp.map (·.whole)
    managedFields := x.managedFields.map fun l => l.map (·.whole) }

theorem toValue_whole (x : ObjectMeta) : record.toValue x.whole = record.toValue x := by
  refine Record.toValue_congr ?_
  simp [record, Field.optional, whole, Codec.time, Codec.list, Record.codec, Function.comp_def,
    ManagedFields.toValue_whole]

theorem times_whole (x : ObjectMeta) : x.whole.times = x.times.map (·.whole) := by
  cases hfields : x.managedFields <;>
    simp [times, whole, hfields, Option.toList_map, List.filterMap_map, List.map_filterMap,
      ManagedFields.whole]

theorem payloads_whole (x : ObjectMeta) : x.whole.payloads = x.payloads := by
  cases hfields : x.managedFields <;>
    simp [payloads, whole, hfields, List.filterMap_map, ManagedFields.whole]

end ObjectMeta

namespace Manifest

/-- The manifest with all times to the second. -/
def whole (m : Manifest) : Manifest := { m with metadata := m.metadata.whole }

theorem toValue_whole (m : Manifest) : m.whole.toValue = m.toValue := by
  refine Record.toValue_congr ?_
  simp [record, whole, Field.always, Field.optional, Field.text, Field.omitting, Record.codec,
    ObjectMeta.toValue_whole]

/-- The status that is found in the text of a manifest gives the same text. -/
theorem alike_toValue {m : Manifest} {found : Option Value} (h : m.IsStatusOf found) :
    Alike m.toValue { m with status := found }.toValue := by
  refine Record.alike_toValue ?_
  simp only [record, List.forall_mem_cons]
  refine ⟨Alike.rel_refl _, Alike.rel_refl _, Alike.rel_refl _, Alike.rel_refl _, ?_, by simp⟩
  cases hm : m.status <;> cases found <;> simp only [IsStatusOf, hm] at h
  · simpa only [Field.optional, hm] using .none
  · simpa only [Field.optional, hm] using .some (alike_of_isReadAs h)

theorem isExpressible_whole {m : Manifest}
    (htimes : ∀ t ∈ m.metadata.times, Time.Timestamp.parse t.text = .ok t.whole)
    (hpayloads : ∀ p ∈ m.metadata.payloads, p.json ≠ .null) (hstatus : m.status ≠ some .null) :
    m.whole.IsExpressible := by
  refine ⟨⟨fun t' ht' => ?_, ?_⟩, hstatus⟩
  · rw [whole, ObjectMeta.times_whole] at ht'
    obtain ⟨t, ht, rfl⟩ := List.mem_map.1 ht'
    rw [Time.Timestamp.text_whole, htimes t ht]
  · rw [whole, ObjectMeta.payloads_whole]
    exact hpayloads

/-- **The text of a manifest holds a manifest with that text**, and with the same specification. -/
theorem exists_decode_text {m : Manifest}
    (htimes : ∀ t ∈ m.metadata.times, Time.Timestamp.parse t.text = .ok t.whole)
    (hpayloads : ∀ p ∈ m.metadata.payloads, p.json ≠ .null) (hstatus : m.status ≠ some .null)
    (hread : m.toValue.IsReadBack) {text : String} (htext : m.toValue.text = .ok text) :
    ∃ m' : Manifest, (∀ mode, decode mode text.toUTF8 = .ok m') ∧ m'.spec = m.spec ∧
      m'.toValue.text = .ok text := by
  have hencode : m.whole.encode = .ok text.toUTF8 := by
    rw [encode, toValue_whole, toBytes, htext]
    rfl
  have hread' : m.whole.toValue.IsReadBack := by rwa [toValue_whole]
  obtain ⟨found, hfound, hdecode⟩ :=
    exists_decode (isExpressible_whole htimes hpayloads hstatus) hread' hencode
  refine ⟨{ m.whole with status := found }, hdecode, rfl, ?_⟩
  rw [← (alike_toValue hfound).text, toValue_whole, htext]

end Manifest
end InstallManifest
