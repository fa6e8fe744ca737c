import InstallManifest.Manifest.Basic
import InstallManifest.Manifest.Keys
import InstallManifest.Proofs.Yaml.Written

/-!
# The table of keys

The table of keys has every key that a manifest can be written with, at the place where it is
written. So nothing is reported of a manifest that has been written and read back.
-/
namespace InstallManifest
open Yaml Value

namespace Keys

/-- Whether nothing is reported of a value. -/
def Admits (keys : Keys) (v : Value) : Prop := ∀ path, unknown path v keys = []

/-! ## What is admitted -/

theorem admits_any (v : Value) : any.Admits v := by
  intro path
  cases v <;> simp [unknown]

theorem unknownOfItems_eq_nil {inner : Keys} {vs : List Value} (h : ∀ v ∈ vs, inner.Admits v)
    (path : Path) (i : Nat) : unknownOfItems path i vs inner = [] := by
  induction vs generalizing i with
  | nil => simp [unknownOfItems]
  | cons v vs ih =>
    have hv : unknown (path ++ [.item i]) v inner = [] := h v List.mem_cons_self _
    simp [unknownOfItems, hv, ih (fun w hw => h w (List.mem_cons_of_mem v hw))]

theorem admits_items {inner : Keys} {vs : List Value} (h : ∀ v ∈ vs, inner.Admits v) :
    (items inner).Admits (.seq vs) := by
  intro path
  simpa [unknown] using unknownOfItems_eq_nil h path 0

theorem unknownOfEntries_eq_nil {known : List (String × Keys)} {es : List (Value × Value)}
    (h : ∀ e ∈ es, ∃ keys, under? known e.1 = some keys ∧ keys.Admits e.2) (path : Path) :
    unknownOfEntries path es known = [] := by
  induction es with
  | nil => simp [unknownOfEntries]
  | cons e es ih =>
    obtain ⟨keys, hkeys, hadmits⟩ := h e List.mem_cons_self
    simp [unknownOfEntries, hkeys, hadmits _, ih (fun f hf => h f (List.mem_cons_of_mem e hf))]

theorem admits_fields {known : List (String × Keys)} {es : List (Value × Value)}
    (h : ∀ e ∈ es, ∃ keys, under? known e.1 = some keys ∧ keys.Admits e.2) :
    (fields known).Admits (.map es) := by
  intro path
  simpa [unknown] using unknownOfEntries_eq_nil h path

/-- Whether a table has the name of a field, and admits what a record writes there. -/
def AdmitsField {α : Type} (known : List (String × Keys)) (x : α) (f : Field Value α) : Prop :=
  ∃ keys, known.lookup f.name = some keys ∧ ∀ v, f.write x = some v → keys.Admits v

namespace AdmitsField
variable {α β : Type} {known : List (String × Keys)} {x : α} {name : String} {c : Codec Value β}
  {set : β → α → α} {keys inner : Keys}

theorem unchecked {f : Field Value α} (hname : known.lookup f.name = some any) :
    AdmitsField known x f := ⟨any, hname, fun v _ => admits_any v⟩

theorem always {get : α → β} (hname : known.lookup name = some keys)
    (h : ∀ y, keys.Admits (c.write y)) : AdmitsField known x (.always name get set c) := by
  refine ⟨keys, hname, fun v hv => ?_⟩
  obtain rfl : c.write (get x) = v := Option.some.inj hv
  exact h _

theorem optional {get : α → Option β} {set : Option β → α → α}
    (hname : known.lookup name = some keys) (h : ∀ y, keys.Admits (c.write y)) :
    AdmitsField known x (.optional name get set c) := by
  refine ⟨keys, hname, fun v hv => ?_⟩
  obtain ⟨y, -, rfl⟩ := Option.map_eq_some_iff.1 hv
  exact h y

theorem list {get : α → List β} {set : List β → α → α}
    (hname : known.lookup name = some (items inner)) (h : ∀ y, inner.Admits (c.write y)) :
    AdmitsField known x (.list name get set c) := by
  refine ⟨items inner, hname, fun v hv => ?_⟩
  obtain ⟨-, rfl⟩ : _ ∧ c.list.write (get x) = v := by
    simpa [Field.list, Field.omitting] using hv
  refine admits_items fun w hw => ?_
  obtain ⟨y, -, rfl⟩ := List.mem_map.1 hw
  exact h y

end AdmitsField

/-- The mapping of a record is admitted if the table admits every field. -/
theorem admits_toValue {α : Type} {r : Record Value α} {x : α} {known : List (String × Keys)}
    (h : ∀ f ∈ r.fields, AdmitsField known x f) : (fields known).Admits (r.toValue x) := by
  refine admits_fields fun e he => ?_
  obtain ⟨f, hf, hwrite⟩ := List.mem_filterMap.1 he
  obtain ⟨v, hv, rfl⟩ := Option.map_eq_some_iff.1 hwrite
  obtain ⟨keys, hkeys, hadmits⟩ := h f hf
  exact ⟨keys, by simpa [under?, text?, untag] using hkeys, hadmits v hv⟩

theorem lookup_flat {names : List String} {name : String} (h : name ∈ names) :
    (names.map fun k => (k, any)).lookup name = some any := by
  induction names with
  | nil => simp at h
  | cons k names ih =>
    rw [List.map_cons, List.lookup_cons]
    by_cases hk : name = k
    · simp [hk]
    · have hname : name ∈ names := (List.mem_cons.1 h).resolve_left hk
      simp [beq_false_of_ne hk, ih hname]

theorem admits_flat {α : Type} {r : Record Value α} {names : List String}
    (h : ∀ f ∈ r.fields, f.name ∈ names) (x : α) : (flat names).Admits (r.toValue x) :=
  admits_toValue fun f hf => .unchecked (lookup_flat (h f hf))

/-! ## The report on what was written and what was found -/

theorem text?_eq_of_isReadAs {k l : Value} (h : k.isReadAs l) : l.text? = k.text? := by
  match k, l with
  | tagged s v, tagged t w =>
    simp only [isReadAs, Bool.and_eq_true] at h
    simpa [text?, untag] using text?_eq_of_isReadAs h.2
  | string s, l => rw [eq_of_isReadAs_string h]
  | null, null | Value.bool _, Value.bool _ | number _, number _ | seq _, seq _ | map _, map _ => rfl

mutual

theorem unknown_eq_of_isReadAs {v w : Value} (h : v.isReadAs w) (path : Path) (keys : Keys) :
    unknown path w keys = unknown path v keys := by
  match v with
  | map es =>
    obtain ⟨fs, rfl, hfs⟩ := exists_of_isReadAs_map h
    cases keys with
    | fields known =>
      simp only [unknown,
        unknownOfEntries_eq_of_areReadAs (entriesAreReadAs_iff.2 hfs) path known]
    | items inner => simp [unknown]
    | any => simp [unknown]
  | seq vs =>
    obtain ⟨ws, rfl, hws⟩ := exists_of_isReadAs_seq h
    cases keys with
    | fields known => simp [unknown]
    | items inner =>
      simp only [unknown, unknownOfItems_eq_of_areReadAs (itemsAreReadAs_iff.2 hws) path 0 inner]
    | any => simp [unknown]
  | null | Value.bool _ | number _ | string _ | tagged _ _ =>
    cases w <;> simp_all [isReadAs, unknown]

theorem unknownOfEntries_eq_of_areReadAs {es fs : List (Value × Value)}
    (h : entriesAreReadAs es fs) (path : Path) (known : List (String × Keys)) :
    unknownOfEntries path fs known = unknownOfEntries path es known := by
  match es, fs with
  | [], [] => rfl
  | (k, v) :: es, (l, w) :: fs =>
    simp only [entriesAreReadAs, Bool.and_eq_true] at h
    have hkey : l.text? = k.text? := text?_eq_of_isReadAs h.1.1
    simp only [unknownOfEntries, under?, step, hkey, unknown_eq_of_isReadAs h.1.2,
      unknownOfEntries_eq_of_areReadAs h.2 path known]

theorem unknownOfItems_eq_of_areReadAs {vs ws : List Value} (h : itemsAreReadAs vs ws)
    (path : Path) (i : Nat) (inner : Keys) :
    unknownOfItems path i ws inner = unknownOfItems path i vs inner := by
  match vs, ws with
  | [], [] => rfl
  | v :: vs, w :: ws =>
    simp only [itemsAreReadAs, Bool.and_eq_true] at h
    simp only [unknownOfItems, unknown_eq_of_isReadAs h.1,
      unknownOfItems_eq_of_areReadAs h.2 path (i + 1) inner]

end

theorem Admits.of_isReadAs {keys : Keys} {v w : Value} (hv : keys.Admits v) (h : v.isReadAs w) :
    keys.Admits w := fun path => (unknown_eq_of_isReadAs h path keys).trans (hv path)

end Keys

/-! ## The table of manifests -/

namespace Manifest
open Keys

theorem admits_reference (name : String) (x : Reference) :
    Keys.reference.Admits ((Reference.record name).toValue x) :=
  admits_flat (by simp [Reference.record, Field.always]) x

theorem admits_requirements (x : Requirements) :
    (flat ["controlPlaneAgents", "workerAgents"]).Admits (Requirements.record.toValue x) :=
  admits_flat (by simp [Requirements.record, Field.always]) x

theorem admits_metadata (x : ObjectMeta) : Keys.metadata.Admits (ObjectMeta.record.toValue x) :=
  admits_flat (by simp [ObjectMeta.record, Field.optional]) x

theorem admits_machineRange (x : MachineRange) :
    (flat ["cidr"]).Admits ((MachineRange.record (σ := Value) false).toValue x) :=
  admits_flat (by simp [MachineRange.record, rangeField, Field.always]) x

theorem admits_clusterRange (x : ClusterRange) :
    (flat ["cidr", "hostPrefix"]).Admits ((ClusterRange.record (σ := Value) false).toValue x) :=
  admits_flat (by simp [ClusterRange.record, rangeField, Field.always]) x

theorem admits_networking (x : Networking) :
    Keys.networking.Admits (Networking.record.toValue x) := by
  refine admits_toValue ?_
  simp only [Networking.record, List.forall_mem_cons]
  exact ⟨.list rfl admits_machineRange, .list rfl admits_clusterRange,
    .list rfl fun s => admits_any _, .unchecked rfl, .unchecked rfl, by simp⟩

theorem admits_spec (x : Spec) : Keys.spec.Admits (Spec.record.toValue x) := by
  refine admits_toValue ?_
  simp only [Spec.record, List.forall_mem_cons]
  exact ⟨.optional rfl (admits_reference _), .always rfl (admits_reference _),
    .always rfl admits_networking, .unchecked rfl, .always rfl admits_requirements,
    .unchecked rfl, .unchecked rfl, by simp⟩

/-- **Every key that a manifest is written with is in the table.** -/
theorem admits_toValue (m : Manifest) : Keys.manifest.Admits m.toValue := by
  refine Keys.admits_toValue ?_
  simp only [record, List.forall_mem_cons]
  exact ⟨.unchecked rfl, .unchecked rfl, .always rfl admits_metadata, .always rfl admits_spec,
    .unchecked rfl, by simp⟩

end Manifest
end InstallManifest
