import InstallManifest.Manifest.Codec
import InstallManifest.Proofs.Manifest.Strictness

/-!
# What strict decoding lets through

The types of a manifest say which keys there are, part by part, and which parts are free-form
(`Manifest.shape`). The table of keys stands beside these types. It follows them except in two
places: it has nothing to say on the contents of the entries for owners and for managed fields. And
the report does not look under a tag. Apart from that, strict decoding lets no key through that the
types do not define (`Manifest.decode_strict_iff`); there, it does
(`Manifest.overlooks_unchecked`).
-/
namespace InstallManifest
open Yaml Value

/-- Which keys a type defines, and where. -/
inductive Shape where
  /-- No keys. -/
  | scalar
  /-- A mapping with the given keys. -/
  | record (fields : List (String × Shape))
  /-- A list of items of one shape. -/
  | list (item : Shape)
  /-- Free-form data, which is carried as it is. -/
  | free

namespace Shape

/-- The shape of a type with the keys of a record. Parts that are not listed are scalars. -/
def ofRecord {α : Type} (r : Record Value α) (parts : List (String × Shape)) : Shape :=
  record (r.fields.map fun f => (f.name, (parts.lookup f.name).getD scalar))

/-- Whether every step to a place is defined, or lies in free-form data. -/
def defines : Shape → Path → Bool
  | _, [] => true
  | free, _ => true
  | record fields, .key name :: path =>
    match fields.lookup name with
    | some part => part.defines path
    | none => false
  | list item, .item _ :: path => item.defines path
  | _, _ => false

end Shape

/-! ## The shapes of manifests -/

def OwnerReference.shape : Shape := .ofRecord record []

def ManagedFields.shape : Shape := .ofRecord record [("fieldsV1", .free)]

/-- The shape of metadata, given the shapes of the entries for managed fields and for owners. -/
def ObjectMeta.shape (managedFields ownerReferences : Shape) : Shape :=
  .ofRecord record [("annotations", .free), ("finalizers", .list .scalar), ("labels", .free),
    ("managedFields", managedFields), ("ownerReferences", ownerReferences)]

namespace Manifest

def Reference.shape : Shape := .ofRecord (record "") []

def Networking.shape : Shape :=
  .ofRecord record [
    ("machineNetwork", .list (.ofRecord (MachineRange.record false) [])),
    ("clusterNetwork", .list (.ofRecord (ClusterRange.record false) [])),
    ("serviceNetwork", .list .scalar)]

def Spec.shape : Shape :=
  .ofRecord record [
    ("imageSetRef", Reference.shape),
    ("clusterDeploymentRef", Reference.shape),
    ("networking", Networking.shape),
    ("provisionRequirements", .ofRecord Requirements.record [])]

/-- The shape of manifests, given the shapes of the entries for managed fields and for owners. -/
def shapeWith (managedFields ownerReferences : Shape) : Shape :=
  .ofRecord record [
    ("metadata", ObjectMeta.shape managedFields ownerReferences),
    ("spec", Spec.shape),
    ("status", .free)]

/-- The shape of manifests. -/
def shape : Shape := shapeWith (.list ManagedFields.shape) (.list OwnerReference.shape)

/-- The shape of manifests as far as it is checked. -/
def checkedShape : Shape := shapeWith .free .free

end Manifest

/-! ## Readers -/

namespace Shape
variable {α β : Type} {keys inner : Keys} {s item : Shape}

/-- Whether, of what a reader accepts, a table refuses no key exactly if a shape defines all. -/
def Covers (s : Shape) (keys : Keys) (read : Value → Except ReadError α) : Prop :=
  ∀ v x, read v = .ok x →
    ((∀ path, v.HasKey false path → keys.refuses path = false) ↔
      ∀ path, v.HasKey false path → s.defines path)

theorem defines_nil (s : Shape) : s.defines [] := by
  cases s <;> rfl

theorem defines_free (path : Path) : free.defines path := by
  cases path <;> rfl

theorem covers_free (read : Value → Except ReadError α) : free.Covers .any read :=
  fun _ _ _ => iff_of_true (fun path _ => Keys.refuses_any path) fun path _ => defines_free path

theorem iff_of_forall_not_hasKey {v : Value} (h : ∀ path, ¬ v.HasKey false path) :
    (∀ path, v.HasKey false path → keys.refuses path = false) ↔
      ∀ path, v.HasKey false path → s.defines path :=
  iff_of_true (fun path hkey => absurd hkey (h path)) fun path hkey => absurd hkey (h path)

/-- A reader of scalars accepts no collection. -/
def IsScalar (read : Value → Except ReadError α) : Prop :=
  (∀ es x, read (map es) ≠ .ok x) ∧ ∀ vs x, read (seq vs) ≠ .ok x

theorem covers_scalar {read : Value → Except ReadError α} (h : IsScalar read) :
    s.Covers keys read := by
  intro v x hread
  refine iff_of_forall_not_hasKey fun path hkey => ?_
  cases hkey with
  | here | entry => exact h.1 _ _ hread
  | item => exact h.2 _ _ hread
  | tagged htags => cases htags

theorem isScalar_string : IsScalar (Codec.string (σ := Value)).read := ⟨nofun, nofun⟩

theorem isScalar_uint32 : IsScalar (Codec.uint32 (σ := Value)).read := ⟨nofun, nofun⟩

theorem isScalar_int32 : IsScalar (Codec.int32 (σ := Value)).read := ⟨nofun, nofun⟩

theorem isScalar_bool : IsScalar Codec.bool.read := ⟨nofun, nofun⟩

theorem isScalar_int64 : IsScalar Codec.int64.read := ⟨nofun, nofun⟩

theorem isScalar_time : IsScalar Codec.time.read := ⟨nofun, nofun⟩

/-- The items of a list are those that the reader of a single one accepts. -/
theorem covers_list {c : Codec Value α} (h : item.Covers inner c.read)
    (hkeys : ∀ i path, keys.refuses (.item i :: path) = inner.refuses path) :
    (list item).Covers keys c.list.read := by
  intro v xs hread
  match v with
  | seq vs =>
    have hxs : vs.mapM c.read = .ok xs := hread
    rw [HasKey.forall_seq_iff, HasKey.forall_seq_iff]
    refine forall₃_congr fun i w hmem => ?_
    obtain ⟨x, hx⟩ := Result.exists_of_mapM_eq_ok hxs (List.mem_of_getElem? hmem)
    simp only [hkeys, defines]
    exact h w x hx
  | map _ => cases hread
  | null | Value.bool _ | number _ | string _ | tagged _ _ =>
    exact iff_of_forall_not_hasKey fun path hkey => by
      cases hkey <;> contradiction

/-- Whether the shape of a record covers the reader of one of its fields. -/
def CoversField (parts : List (String × Shape)) (known : List (String × Keys))
    (f : Field Value α) : Prop :=
  ∃ keys s, known.lookup f.name = some keys ∧ parts.lookup f.name = some s ∧
    s.Covers keys f.read

namespace CoversField
variable {parts : List (String × Shape)} {known : List (String × Keys)} {name : String}
  {c : Codec Value β}

theorem always {get : α → β} {set : β → α → α} (hkeys : known.lookup name = some keys)
    (hshape : parts.lookup name = some s) (h : s.Covers keys c.read) :
    CoversField parts known (.always name get set c) := by
  refine ⟨keys, s, hkeys, hshape, fun v change hread => ?_⟩
  obtain ⟨y, hy, -⟩ := Result.exists_of_map hread
  exact h v y hy

theorem optional {get : α → Option β} {set : Option β → α → α}
    (hkeys : known.lookup name = some keys) (hshape : parts.lookup name = some s)
    (h : s.Covers keys c.read) : CoversField parts known (.optional name get set c) := by
  refine ⟨keys, s, hkeys, hshape, fun v change hread => ?_⟩
  obtain ⟨rfl, -⟩ | ⟨-, y, hy, -⟩ := Field.exists_of_read_optional hread
  · -- Only null is missing, and it has no keys.
    exact iff_of_forall_not_hasKey nofun
  · exact h v y hy

theorem text {get : α → String} {set : String → α → α} (hkeys : known.lookup name = some keys)
    (hshape : parts.lookup name = some scalar) :
    CoversField parts known (.text name get set) := by
  have htext : CoversField parts known (.always name get set .string) :=
    always hkeys hshape (covers_scalar isScalar_string)
  exact htext

theorem list {get : α → List β} {set : List β → α → α}
    (hkeys : known.lookup name = some (.items inner))
    (hshape : parts.lookup name = some (.list item)) (h : item.Covers inner c.read) :
    CoversField parts known (.list name get set c) := by
  have hlist : CoversField parts known (.always name get set c.list) :=
    always hkeys hshape (covers_list h fun _ _ => rfl)
  exact hlist

end CoversField

/-! ## Records -/

/-- What a record was read from: keys that are texts, and parts that the readers of their fields
have accepted. -/
theorem forall_of_readEntries {r : Record Value α} {es : List (Value × Value)} {seen : List String}
    {x : α} {outcome : List String × α}
    (hread : r.readEntries seen x (Keys.parts es) = .ok outcome) :
    ∀ e ∈ es, ∃ name, e.1.text? = some name ∧
      ∀ f, r.fields.find? (fun f => f.name == name) = some f →
        ∃ change, f.read e.2 = .ok change := by
  induction es generalizing seen x with
  | nil => simp
  | cons e es ih =>
    obtain ⟨name, hname, hentry⟩ := Keys.readEntries_cons_eq_ok_iff.1 hread
    have htext := Keys.text?_of_readText hname
    rw [List.forall_mem_cons]
    obtain ⟨hnone, hrest⟩ | ⟨f, change, hf, -, hchange, hrest⟩ := hentry
    · exact ⟨⟨name, htext, fun f hf => by simp [hnone] at hf⟩, ih hrest⟩
    · refine ⟨⟨name, htext, fun f' hf' => ?_⟩, ih hrest⟩
      obtain rfl : f = f' := Option.some.inj (hf.symm.trans hf')
      exact ⟨change, hchange⟩

theorem defines_step {parts : List (String × Shape)} {k : Value} {name : String}
    (hname : k.text? = some name) (hshape : parts.lookup name = some s) (path : Path) :
    (record parts).defines (Keys.step k :: path) = s.defines path := by
  simp only [Keys.step, hname, defines, hshape]

/-- The field that is read under a name. -/
theorem exists_field {r : Record Value α} {name : String}
    (h : name ∈ r.fields.map (·.name)) : ∃ f, r.fields.find? (fun f => f.name == name) = some f ∧
      f ∈ r.fields ∧ f.name = name := by
  have hfound : (r.fields.find? fun f => f.name == name).isSome := by
    obtain ⟨f, hf, hname⟩ := List.mem_map.1 h
    exact List.find?_isSome.2 ⟨f, hf, beq_iff_eq.2 hname⟩
  obtain ⟨f, hf⟩ := Option.isSome_iff_exists.1 hfound
  exact ⟨f, hf, List.mem_of_find?_eq_some hf, by simpa using List.find?_some hf⟩

/-- Under the name of a field, the shape and the table go on with a part that covers it. -/
theorem exists_part {r : Record Value α} {parts : List (String × Shape)}
    {known : List (String × Keys)} (h : ∀ f ∈ r.fields, CoversField parts known f) {k w : Value}
    {name : String} (hname : k.text? = some name)
    (hfield : ∀ f, r.fields.find? (fun f => f.name == name) = some f →
      ∃ change, f.read w = .ok change) (hmem : name ∈ r.fields.map (·.name)) :
    ∃ (s : Shape) (keys : Keys),
      (∀ path, (record parts).defines (Keys.step k :: path) = s.defines path) ∧
      (∀ path, (Keys.fields known).refuses (Keys.step k :: path) = keys.refuses path) ∧
      ((∀ path, w.HasKey false path → keys.refuses path = false) ↔
        ∀ path, w.HasKey false path → s.defines path) := by
  obtain ⟨f, hf, hfmem, rfl⟩ := exists_field hmem
  obtain ⟨keys, s, hkeys, hshape, hcovers⟩ := h f hfmem
  obtain ⟨change, hchange⟩ := hfield f hf
  have hunder : Keys.under? known k = some keys := by simp [Keys.under?, hname, hkeys]
  exact ⟨s, keys, defines_step hname hshape, Keys.refuses_step_of_some hunder,
    hcovers w change hchange⟩

theorem mem_names_of_lookup {γ : Type} {es : List (String × γ)} {name : String} {y : γ}
    (h : es.lookup name = some y) : name ∈ es.map (·.1) := by
  obtain ⟨before, after, rfl, -⟩ := List.lookup_eq_some_iff.1 h
  simp

theorem mem_names_of_refuses {known : List (String × Keys)} {k : Value} {name : String}
    (hname : k.text? = some name)
    (h : (Keys.fields known).refuses [Keys.step k] = false) : name ∈ known.map (·.1) := by
  cases hkeys : known.lookup name with
  | some keys => exact mem_names_of_lookup hkeys
  | none =>
    rw [Keys.refuses_step_of_none (by simp [Keys.under?, hname, hkeys])] at h
    cases h

theorem mem_names_of_defines {parts : List (String × Shape)} {k : Value} {name : String}
    (hname : k.text? = some name) (h : (record parts).defines [Keys.step k]) :
    name ∈ parts.map (·.1) := by
  cases hshape : parts.lookup name with
  | some s => exact mem_names_of_lookup hshape
  | none => simp [Keys.step, hname, defines, hshape] at h

/-- A record has the keys of its fields, if neither the table nor the shape has others. -/
theorem covers_record {r : Record Value α} {parts : List (String × Shape)}
    {known : List (String × Keys)} (h : ∀ f ∈ r.fields, CoversField parts known f)
    (hknown : known.map (·.1) = r.fields.map (·.name))
    (hparts : parts.map (·.1) = r.fields.map (·.name)) :
    (record parts).Covers (.fields known) r.read := by
  intro v x hread
  match v with
  | seq _ => cases hread
  | null | Value.bool _ | number _ | string _ | tagged _ _ =>
    exact iff_of_forall_not_hasKey fun path hkey => by
      cases hkey <;> contradiction
  | map es =>
    have hentries : (do r.ofEntries (Keys.parts es)) = .ok x := Result.mapError_eq_ok.1 hread
    obtain ⟨outcome, houtcome, -⟩ := Result.exists_of_bind hentries
    have hfields := forall_of_readEntries houtcome
    rw [HasKey.forall_map_iff, HasKey.forall_map_iff]
    refine forall₃_congr fun k w hmem => ?_
    obtain ⟨name, hname, hfield⟩ := hfields (k, w) hmem
    by_cases hin : name ∈ r.fields.map (·.name)
    · obtain ⟨s, keys, hdefines, hrefuses, hpart⟩ := exists_part h hname hfield hin
      simp only [hdefines, hrefuses, Keys.refuses_nil, defines_nil, true_and]
      exact hpart
    · -- A key that names no field is neither in the table nor in the shape.
      refine iff_of_false (fun hadmits => hin ?_) fun hdefined => hin ?_
      · exact hknown ▸ mem_names_of_refuses hname hadmits.1
      · exact hparts ▸ mem_names_of_defines hname hdefined.1

end Shape

/-! ## The parts of a manifest -/

namespace Manifest
open Shape

theorem covers_reference (name : String) :
    Reference.shape.Covers Keys.reference (Reference.record name).read := by
  refine covers_record ?_ rfl rfl
  simp only [Reference.record, List.forall_mem_cons]
  exact ⟨.always rfl rfl (covers_scalar isScalar_string), by simp⟩

theorem covers_machineRange :
    (ofRecord (MachineRange.record false) []).Covers (.flat ["cidr"])
      (MachineRange.record false).read := by
  refine covers_record ?_ rfl rfl
  simp only [MachineRange.record, List.forall_mem_cons]
  exact ⟨.always rfl rfl (covers_scalar isScalar_string), by simp⟩

theorem covers_clusterRange :
    (ofRecord (ClusterRange.record false) []).Covers (.flat ["cidr", "hostPrefix"])
      (ClusterRange.record false).read := by
  refine covers_record ?_ rfl rfl
  simp only [ClusterRange.record, List.forall_mem_cons]
  exact ⟨.always rfl rfl (covers_scalar isScalar_string),
    .always rfl rfl (covers_scalar isScalar_int32), by simp⟩

theorem covers_networking : Networking.shape.Covers Keys.networking Networking.record.read := by
  refine covers_record ?_ rfl rfl
  simp only [Networking.record, List.forall_mem_cons]
  exact ⟨.list rfl rfl covers_machineRange, .list rfl rfl covers_clusterRange,
    .list rfl rfl (covers_scalar isScalar_string), .text rfl rfl,
    .optional rfl rfl (covers_scalar isScalar_bool), by simp⟩

theorem covers_requirements :
    (ofRecord Requirements.record []).Covers (.flat ["controlPlaneAgents", "workerAgents"])
      Requirements.record.read := by
  refine covers_record ?_ rfl rfl
  simp only [Requirements.record, List.forall_mem_cons]
  exact ⟨.always rfl rfl (covers_scalar isScalar_uint32),
    .always rfl rfl (covers_scalar isScalar_uint32), by simp⟩

theorem covers_spec : Spec.shape.Covers Keys.spec Spec.record.read := by
  refine covers_record ?_ rfl rfl
  simp only [Spec.record, List.forall_mem_cons]
  exact ⟨.optional rfl rfl (covers_reference _), .always rfl rfl (covers_reference _),
    .always rfl rfl covers_networking, .text rfl rfl, .always rfl rfl covers_requirements,
    .optional rfl rfl (covers_scalar isScalar_string),
    .optional rfl rfl (covers_scalar isScalar_string), by simp⟩

theorem covers_metadata :
    (ObjectMeta.shape .free .free).Covers Keys.metadata ObjectMeta.record.read := by
  have hstring {keys : Keys} : scalar.Covers keys (Codec.string (σ := Value)).read :=
    covers_scalar isScalar_string
  have htime {keys : Keys} : scalar.Covers keys Codec.time.read := covers_scalar isScalar_time
  have hint64 {keys : Keys} : scalar.Covers keys Codec.int64.read := covers_scalar isScalar_int64
  have hstrings : (list scalar).Covers .any (Codec.string (σ := Value)).list.read :=
    covers_list hstring fun _ path => (Keys.refuses_any path).symm
  refine covers_record ?_ rfl rfl
  simp only [ObjectMeta.record, List.forall_mem_cons]
  exact ⟨.optional rfl rfl (covers_free _), .optional rfl rfl htime, .optional rfl rfl hint64,
    .optional rfl rfl htime, .optional rfl rfl hstrings,
    .optional rfl rfl hstring, .optional rfl rfl hint64, .optional rfl rfl (covers_free _),
    .optional rfl rfl (covers_free _), .optional rfl rfl hstring, .optional rfl rfl hstring,
    .optional rfl rfl (covers_free _), .optional rfl rfl hstring, .optional rfl rfl hstring,
    .optional rfl rfl hstring, by simp⟩

theorem covers_ofValue : checkedShape.Covers Keys.manifest ofValue := by
  refine covers_record ?_ rfl rfl
  simp only [record, List.forall_mem_cons]
  exact ⟨.text rfl rfl, .text rfl rfl, .always rfl rfl covers_metadata,
    .always rfl rfl covers_spec, .optional rfl rfl (covers_free _), by simp⟩

/-! ## Strict decoding -/

variable {data : ByteArray} {m : Manifest}

/-- **What strict decoding asks for** besides what lenient decoding does: every key that is not
under a tag is defined, as far as the shape is checked. -/
theorem decode_strict_iff : decode .strict data = .ok m ↔
    decode .lenient data = .ok m ∧ ∀ v, Value.ofBytes data = .ok v →
      ∀ path, v.HasKey false path → checkedShape.defines path := by
  rw [decode_eq_ok_iff, decode_eq_ok_iff]
  constructor
  · rintro ⟨hblank, v, hv, hnull, hvalue, hknown⟩
    refine ⟨⟨hblank, v, hv, hnull, hvalue, nofun⟩, fun v' hv' => ?_⟩
    obtain rfl : v = v' := Except.ok.inj (hv.symm.trans hv')
    exact (covers_ofValue v m hvalue).1 (Keys.unknown_eq_nil_iff.1 (hknown rfl))
  · rintro ⟨⟨hblank, v, hv, hnull, hvalue, -⟩, hdefined⟩
    refine ⟨hblank, v, hv, hnull, hvalue, fun _ => Keys.unknown_eq_nil_iff.2 ?_⟩
    exact (covers_ofValue v m hvalue).2 (hdefined v hv)

/-- Whether strict decoding accepts a document although the types do not define a key of it. -/
def Overlooks (text : String) (path : Path) : Prop :=
  (∃ m, decode .strict text.toUTF8 = .ok m) ∧
    (∃ v, Value.ofBytes text.toUTF8 = .ok v ∧ v.HasKey true path) ∧ shape.defines path = false

instance (text : String) (path : Path) : Decidable (Overlooks text path) :=
  inferInstanceAs (Decidable (_ ∧ _ ∧ _))

/-- Strict decoding does not look into the entries for owners and for managed fields, nor under a
tag. -/
theorem overlooks_unchecked :
    Overlooks ("metadata:\n  ownerReferences:\n  - apiVersion: v1\n    kind: Pod\n    name: a\n" ++
        "    uid: b\n    bogus: 1\n")
      [.key "metadata", .key "ownerReferences", .item 0, .key "bogus"] ∧
    Overlooks "metadata:\n  managedFields:\n  - bogus: 1\n"
      [.key "metadata", .key "managedFields", .item 0, .key "bogus"] ∧
    Overlooks "spec: !t\n  bogus: 1\n" [.key "spec", .key "bogus"] := by
  decide +kernel

end Manifest
end InstallManifest
