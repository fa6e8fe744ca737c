import InstallManifest.Manifest.Basic
import InstallManifest.Proofs.Manifest.Json

/-!
# The parts of a manifest are read back as they were written

The proof goes record by record, and in a record field by field.

What a manifest can hold and a document cannot say is little: a status that is null, a payload that
is null, and a point in time that its text does not denote (`Manifest.IsExpressible`). The status is
free-form data and is read back only up to what its text leaves open, so `exists_ofValue` says which
status is found in its place; every other part is read back exactly.
-/
namespace InstallManifest
open Yaml Value

/-! ## Scalars and collections -/

namespace Yaml.Codec

theorem restores_bool (b : Bool) : Codec.bool.Restores showing b := by
  rintro w ⟨-, h⟩
  rw [eq_of_isReadAs_bool h]
  rfl

theorem restores_int64 (n : Int64) : Codec.int64.Restores showing n := by
  rintro w ⟨-, h⟩
  rw [eq_of_isReadAs_int h]
  exact readInt64_toInt n

theorem restores_time {t : Time.Timestamp} (ht : Time.Timestamp.parse t.text = .ok t) :
    Codec.time.Restores showing t := by
  rintro w ⟨-, h⟩
  rw [eq_of_isReadAs_string h]
  simp only [Codec.time, readTime, readText, untag, bind, Except.bind, ht]

end Yaml.Codec

/-- Texts under free-form keys, as they are read one after the other. -/
theorem mapM_readTexts {es : List (String × String)} {fs : List (Value × Value)}
    (h : List.Forall₂ (fun e f => e.1.isReadAs f.1 ∧ e.2.isReadAs f.2)
      (es.map fun (k, s) => (Value.string k, Value.string s)) fs) :
    (fs.mapM fun (k, s) => do return (← k.readString, ← s.readString)) =
      (.ok es : Except ReadError (List (String × String))) := by
  induction es generalizing fs with
  | nil =>
    cases h
    rfl
  | cons e es ih =>
    obtain ⟨⟨l, w⟩, fs, hf, hfs, rfl⟩ := List.forall₂_cons_left_iff.1 h
    have hkey : l.readString = .ok e.1 := readText_of_isReadAs hf.1 rfl _
    have hvalue : w.readString = .ok e.2 := readText_of_isReadAs hf.2 rfl _
    rw [List.mapM_cons, ih hfs]
    simp only [hkey, hvalue]
    rfl

theorem ObjectMeta.restores_texts (m : SortedMap String) : texts.Restores showing m := by
  rintro w ⟨-, h⟩
  obtain ⟨fs, rfl, hfs⟩ := exists_of_isReadAs_map h
  show (fs.mapM _ >>= fun pairs => Except.ok (SortedMap.ofList pairs)) = .ok m
  rw [mapM_readTexts hfs]
  exact congrArg Except.ok m.ofList_entries

/-! ## Metadata -/

namespace OwnerReference
variable {x z : OwnerReference} {Q : OwnerReference → Prop} {name : String}
  {fs : List (Field Value OwnerReference)}

theorem builds_textField {get : OwnerReference → String}
    {set : String → OwnerReference → OwnerReference}
    (h : Field.Builds showing x Q fs (set (get x) z)) :
    Field.Builds showing x Q (textField name get set :: fs) z := by
  refine .written rfl (fun w hw => ?_) h
  obtain rfl := eq_of_isReadAs_string hw.2
  rfl

theorem restores (x : OwnerReference) : record.codec.Restores showing x := by
  refine Record.restores (by decide) (by simp [record, textField, Field.optional]) ?_
  refine builds_textField ?_
  refine .optional rfl (by simp [Codec.bool]) (fun b _ => Codec.restores_bool b) ?_
  refine .optional rfl (by simp [Codec.bool]) (fun b _ => Codec.restores_bool b) ?_
  refine builds_textField (builds_textField (builds_textField ?_))
  rfl

end OwnerReference

namespace ManagedFields

theorem restores {x : ManagedFields} (hpayload : ∀ p, x.fieldsV1 = some p → p.json ≠ .null)
    (htime : ∀ t, x.time = some t → Time.Timestamp.parse t.text = .ok t) :
    record.codec.Restores showing x := by
  refine Record.restores (by decide) (by simp [record, Field.optional]) ?_
  refine .optionalString rfl ?_
  refine .optionalString rfl ?_
  refine .optional rfl (fun p hp => Json.toValue_ne_null (hpayload p hp))
    (fun p _ w hw => p.read_of_isReadAs hw.2) ?_
  refine .optionalString rfl ?_
  refine .optionalString rfl ?_
  refine .optionalString rfl ?_
  refine .optional rfl (by simp [Codec.time]) (fun t ht => Codec.restores_time (htime t ht)) ?_
  rfl

end ManagedFields

namespace ObjectMeta

/-- The points in time that metadata mention. -/
def times (x : ObjectMeta) : List Time.Timestamp :=
  x.creationTimestamp.toList ++ x.deletionTimestamp.toList ++
    (x.managedFields.getD []).filterMap (·.time)

/-- The free-form data of metadata. -/
def payloads (x : ObjectMeta) : List Json.Payload :=
  (x.managedFields.getD []).filterMap (·.fieldsV1)

/-- Whether a document can say what metadata say: every point in time is what its text denotes, and
no payload is null, which would stand for no payload. -/
structure IsExpressible (x : ObjectMeta) : Prop where
  times : ∀ t ∈ x.times, Time.Timestamp.parse t.text = .ok t
  payloads : ∀ p ∈ x.payloads, p.json ≠ .null

namespace IsExpressible
variable {x : ObjectMeta} {t : Time.Timestamp}

theorem creation (hx : x.IsExpressible) (h : x.creationTimestamp = some t) :
    Time.Timestamp.parse t.text = .ok t := hx.times t (by simp [ObjectMeta.times, h])

theorem deletion (hx : x.IsExpressible) (h : x.deletionTimestamp = some t) :
    Time.Timestamp.parse t.text = .ok t := hx.times t (by simp [ObjectMeta.times, h])

theorem managed (hx : x.IsExpressible) {l : List ManagedFields} (h : x.managedFields = some l)
    {e : ManagedFields} (he : e ∈ l) : ManagedFields.record.codec.Restores showing e := by
  refine ManagedFields.restores (fun p hp => hx.payloads p ?_) fun t ht => hx.times t ?_
  · simpa [ObjectMeta.payloads, h] using ⟨e, he, hp⟩
  · simpa [ObjectMeta.times, h] using .inr (.inr ⟨e, he, ht⟩)

end IsExpressible

theorem restores {x : ObjectMeta} (hx : x.IsExpressible) : record.codec.Restores showing x := by
  refine Record.restores (by decide) (by simp [record, Field.optional]) ?_
  refine .optional rfl (by simp [texts]) (fun m _ => restores_texts m) ?_
  refine .optional rfl (by simp [Codec.time])
    (fun t ht => Codec.restores_time (hx.creation ht)) ?_
  refine .optional rfl (by simp [Codec.int64, Value.int]) (fun n _ => Codec.restores_int64 n) ?_
  refine .optional rfl (by simp [Codec.time])
    (fun t ht => Codec.restores_time (hx.deletion ht)) ?_
  refine .optional rfl (by simp [Codec.list])
    (fun l _ => Codec.restores_list fun s _ => Codec.restores_string s) ?_
  refine .optionalString rfl ?_
  refine .optional rfl (by simp [Codec.int64, Value.int]) (fun n _ => Codec.restores_int64 n) ?_
  refine .optional rfl (by simp [texts]) (fun m _ => restores_texts m) ?_
  refine .optional rfl (by simp [Codec.list])
    (fun l hl => Codec.restores_list fun e he => hx.managed hl he) ?_
  refine .optionalString rfl ?_
  refine .optionalString rfl ?_
  refine .optional rfl (by simp [Codec.list])
    (fun l _ => Codec.restores_list fun e _ => OwnerReference.restores e) ?_
  refine .optionalString rfl ?_
  refine .optionalString rfl ?_
  refine .optionalString rfl ?_
  rfl

end ObjectMeta

/-! ## Specification -/

section Ranges
variable {σ : Type} [Source σ] {S : Showing σ}

theorem builds_rangeField {α : Type} {x z : α} {Q : α → Prop} {fs : List (Field σ α)}
    {isRequired : Bool} {get : α → String} {set : String → α → α}
    (h : Field.Builds S x Q fs (set (get x) z)) :
    Field.Builds S x Q (rangeField isRequired get set :: fs) z := by
  refine .written rfl (fun src hsrc => ?_) h
  show (Source.string src).map set = .ok (set (get x))
  rw [S.string hsrc]
  rfl

theorem ClusterRange.restores (isRequired : Bool) (x : ClusterRange) :
    (record isRequired).codec.Restores S x := by
  refine Record.restores (by simp [record, rangeField, Field.always])
    (by simp [record, rangeField, Field.always]) ?_
  refine builds_rangeField ?_
  refine .always (Codec.restores_int32 _) ?_
  rfl

theorem MachineRange.restores (isRequired : Bool) (x : MachineRange) :
    (record isRequired).codec.Restores S x := by
  refine Record.restores (by simp [record]) (by simp [record, rangeField, Field.always]) ?_
  refine builds_rangeField ?_
  rfl

end Ranges

namespace Manifest

theorem Reference.restores (name : String) (x : Reference) :
    (record name).codec.Restores showing x := by
  refine Record.restores (by simp [record]) (by simp [record, Field.always]) ?_
  refine .always (Codec.restores_string _) ?_
  rfl

theorem Requirements.restores (x : Requirements) : record.codec.Restores showing x := by
  refine Record.restores (by decide) (by simp [record, Field.always]) ?_
  refine .always (Codec.restores_uint32 _) ?_
  refine .always (Codec.restores_uint32 _) ?_
  rfl

theorem Networking.restores (x : Networking) : record.codec.Restores showing x := by
  refine Record.restores (by decide)
    (by simp [record, Field.list, Field.text, Field.optional, Field.omitting, Field.always]) ?_
  refine .list rfl (fun r _ => r.restores false) ?_
  refine .list rfl (fun r _ => r.restores false) ?_
  refine .list rfl (fun s _ => Codec.restores_string s) ?_
  refine .text rfl ?_
  refine .optional rfl (by simp [Codec.bool]) (fun b _ => Codec.restores_bool b) ?_
  rfl

theorem Spec.restores (x : Spec) : record.codec.Restores showing x := by
  refine Record.restores (by decide)
    (by simp [record, Field.text, Field.optional, Field.omitting, Field.always]) ?_
  refine .optional rfl (by simp [Record.codec, Record.toValue])
    (fun r _ => Reference.restores _ r) ?_
  refine .always (Reference.restores _ _) ?_
  refine .always (Networking.restores _) ?_
  refine .text rfl ?_
  refine .always (Requirements.restores _) ?_
  refine .optionalString rfl ?_
  refine .optionalString rfl ?_
  rfl

/-! ## The whole manifest -/

/-- Whether a document can say what a manifest says: its status is not null, which would stand for
no status, and its metadata can be said. -/
structure IsExpressible (m : Manifest) : Prop where
  metadata : m.metadata.IsExpressible
  status : m.status ≠ some .null

/-- The status that is found where one was written: another tree, maybe, but an equal one. -/
def IsStatusOf (m : Manifest) (found : Option Value) : Prop :=
  match m.status, found with
  | none, none => True
  | some v, some w => v.isReadAs w
  | _, _ => False

theorem builds_status {m z : Manifest} {Q : Manifest → Prop} (hstatus : m.status ≠ some .null)
    (hz : z.status = none) (h : ∀ found, m.IsStatusOf found → Q { z with status := found }) :
    Field.Builds showing m Q
      [.optional "status" (·.status) (fun v x => { x with status := v }) .any] z := by
  cases hm : m.status with
  | none =>
    -- Nothing is written, and the record that has been read so far has no status either.
    refine .unwritten (by simp [Field.optional, hm]) ?_
    have hsame : { z with status := none } = z := by rw [← hz]
    exact hsame ▸ h none (by simp [IsStatusOf, hm])
  | some v =>
    simp only [Field.Builds, Field.optional, hm, Option.map_some]
    rintro w hw
    have hv : v ≠ .null := fun hv => hstatus (hv ▸ hm)
    have hread : w.readAny = .ok w := readAny_eq_self hw.2 hw.1
    refine ⟨fun x => { x with status := some w }, ?_, h (some w) ?_⟩
    · simp only [showing.isMissing hw hv, bind, Except.bind, Codec.any, hread]
      rfl
    · have hfound : v.isReadAs w := hw.2
      simpa [IsStatusOf, hm] using hfound

/-- **What is read where a manifest has been written**: the manifest, with the status that was
found. -/
theorem exists_ofValue {m : Manifest} (hm : m.IsExpressible) {w : Value}
    (hw : showing.Shows w m.toValue) :
    ∃ found, m.IsStatusOf found ∧ ofValue w = .ok { m with status := found } := by
  have hbuilds : Field.Builds showing m
      (fun y => ∃ found, m.IsStatusOf found ∧ y = { m with status := found })
      record.fields record.blank := by
    refine .text rfl ?_
    refine .text rfl ?_
    refine .always (ObjectMeta.restores hm.metadata) ?_
    refine .always (Spec.restores _) ?_
    exact builds_status hm.status rfl fun found hfound => ⟨found, hfound, rfl⟩
  obtain ⟨y, hread, found, hfound, rfl⟩ := Record.exists_read (by decide)
    (by simp [record, Field.text, Field.omitting, Field.always, Field.optional]) hbuilds hw
  exact ⟨found, hfound, hread⟩

end Manifest
end InstallManifest
