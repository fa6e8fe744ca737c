import InstallManifest.Proofs.Data.Result
import InstallManifest.Proofs.Manifest.Modes
import InstallManifest.Proofs.Manifest.Pruning

/-!
# What strict decoding adds

Every reader of a part of a manifest finds the same in it when the keys that the table does not
allow there are taken out (`Keys.Spares`). So the two modes differ by nothing but the report:
without the keys that were reported, strict decoding finds what lenient decoding found with them
(`Manifest.decode_strict_of_lenient`).
-/
namespace InstallManifest
open Yaml Value

/-- An optional part is one that is null, or one that can be read. -/
theorem Yaml.Field.exists_of_read_optional {α β : Type} {name : String} {c : Codec Value β}
    {get : α → Option β} {set : Option β → α → α} {v : Value} {change : α → α}
    (h : (Field.optional name get set c).read v = .ok change) :
    v = .null ∧ change = set none ∨
      v ≠ .null ∧ ∃ y, c.read v = .ok y ∧ change = set (some y) := by
  obtain ⟨missing, hmissing, h⟩ := Result.exists_of_bind h
  match v with
  | null =>
    obtain rfl : true = missing := Except.ok.inj hmissing
    exact .inl ⟨rfl, (Except.ok.inj h).symm⟩
  | Value.bool _ | number _ | string _ | seq _ | map _ | tagged _ _ =>
    obtain rfl : false = missing := Except.ok.inj hmissing
    obtain ⟨y, hy, h⟩ := Result.exists_of_bind h
    exact .inr ⟨nofun, y, hy, (Except.ok.inj h).symm⟩

namespace Keys

/-- Whether a reader finds the same without the keys that are not allowed. -/
def Spares {α : Type} (keys : Keys) (read : Value → Except ReadError α) : Prop :=
  ∀ v x, read v = .ok x → read (prune v keys) = .ok x

variable {α β : Type} {known : List (String × Keys)} {keys inner : Keys}

theorem prune_any (v : Value) : prune v any = v := by
  cases v <;> rfl

theorem spares_any (read : Value → Except ReadError α) : any.Spares read := by
  intro v x h
  rwa [prune_any]

/-! ## Lists -/

theorem forall₂_pruneItems {read : Value → Except ReadError α} (h : inner.Spares read)
    {vs : List Value} {xs : List α} (hxs : List.Forall₂ (fun v x => read v = .ok x) vs xs) :
    List.Forall₂ (fun v x => read v = .ok x) (pruneItems vs inner) xs := by
  induction hxs with
  | nil => exact .nil
  | cons hread _ ih => exact .cons (h _ _ hread) ih

theorem spares_list {c : Codec Value α} (h : inner.Spares c.read) :
    (items inner).Spares c.list.read := by
  intro v xs hread
  match v with
  | seq vs =>
    have hxs : vs.mapM c.read = .ok xs := hread
    exact Result.mapM_eq_ok_iff.2 (forall₂_pruneItems h (Result.mapM_eq_ok_iff.1 hxs))
  | null | Value.bool _ | number _ | string _ | map _ | tagged _ _ => exact hread

/-! ## Fields -/

/-- Nothing is missing after pruning that was not missing before. -/
theorem isMissing_prune (v : Value) (keys : Keys) :
    Source.isMissing (prune v keys) = Source.isMissing v := by
  cases v <;> cases keys <;> rfl

/-- Whether a table has the name of a field, and its reader spares what is allowed there. -/
def SparesField (known : List (String × Keys)) (f : Field Value α) : Prop :=
  ∃ keys, known.lookup f.name = some keys ∧ keys.Spares f.read

namespace SparesField
variable {name : String} {c : Codec Value β} {set : β → α → α}

theorem unchecked {f : Field Value α} (hname : known.lookup f.name = some any) :
    SparesField known f := ⟨any, hname, spares_any _⟩

theorem always {get : α → β} (hname : known.lookup name = some keys) (h : keys.Spares c.read) :
    SparesField known (.always name get set c) := by
  refine ⟨keys, hname, fun v change hread => ?_⟩
  obtain ⟨y, hy, rfl⟩ := Result.exists_of_map hread
  simp only [Field.always, h v y hy]
  rfl

theorem optional {get : α → Option β} {set : Option β → α → α}
    (hname : known.lookup name = some keys) (h : keys.Spares c.read) :
    SparesField known (.optional name get set c) := by
  refine ⟨keys, hname, fun v change hread => ?_⟩
  obtain ⟨missing, hmissing, hrest⟩ := Result.exists_of_bind hread
  rw [← isMissing_prune v keys] at hmissing
  simp only [Field.optional, hmissing, bind, Except.bind]
  cases missing with
  | true => exact hrest
  | false =>
    obtain ⟨y, hy, hset⟩ := Result.exists_of_bind hrest
    simp only [h v y hy]
    exact hset

theorem list {get : α → List β} {set : List β → α → α}
    (hname : known.lookup name = some (items inner)) (h : inner.Spares c.read) :
    SparesField known (.list name get set c) := by
  have hlist : SparesField known (.always name get set c.list) := always hname (spares_list h)
  exact hlist

end SparesField

/-! ## Records -/

/-- What is done with an entry that is read: one whose key names no field is skipped. -/
theorem readEntries_cons_eq_ok_iff {σ : Type} {r : Record σ α} {key : Except ReadError String}
    {src : σ} {rest : List (Except ReadError String × σ)} {seen : List String} {x : α}
    {outcome : List String × α} :
    r.readEntries seen x ((key, src) :: rest) = .ok outcome ↔ ∃ name, key = .ok name ∧
      (r.fields.find? (fun f => f.name == name) = none ∧
          r.readEntries seen x rest = .ok outcome ∨
        ∃ f change, r.fields.find? (fun f => f.name == name) = some f ∧
          ¬ (¬ r.isRepeatable ∧ name ∈ seen) ∧ f.read src = .ok change ∧
          r.readEntries (name :: seen) (change x) rest = .ok outcome) := by
  constructor
  · intro h
    obtain ⟨name, hname, h⟩ := Result.exists_of_bind h
    refine ⟨name, hname, ?_⟩
    split at h
    next hnone => exact .inl ⟨hnone, h⟩
    next f hf =>
      split at h
      next => cases h
      next hfresh =>
        obtain ⟨change, hchange, h⟩ := Result.exists_of_bind h
        exact .inr ⟨f, change, hf, hfresh, hchange, h⟩
  · rintro ⟨name, rfl, ⟨hnone, h⟩ | ⟨f, change, hf, hfresh, hchange, h⟩⟩
    · simp only [Record.readEntries, bind, Except.bind, hnone, h]
    · simp only [Record.readEntries, bind, Except.bind, hf, if_neg hfresh, hchange, h]

theorem text?_of_readText {k : Value} {expected name : String}
    (h : k.readText expected = .ok name) : k.text? = some name := by
  unfold readText at h
  unfold text?
  cases hk : k.untag <;> simp_all [mismatch]

/-- The entries of a mapping, as they are read. -/
def parts (es : List (Value × Value)) : List (Except ReadError String × Value) :=
  es.map fun (k, v) => (k.readText "field identifier", v)

theorem readEntries_pruneEntries {r : Record Value α} (h : ∀ f ∈ r.fields, SparesField known f)
    {es : List (Value × Value)} {seen : List String} {x : α} {outcome : List String × α}
    (hread : r.readEntries seen x (parts es) = .ok outcome) :
    r.readEntries seen x (parts (pruneEntries es known)) = .ok outcome := by
  induction es generalizing seen x with
  | nil => exact hread
  | cons e es ih =>
    obtain ⟨k, v⟩ := e
    obtain ⟨name, hname, hentry⟩ := readEntries_cons_eq_ok_iff.1 hread
    have hunder : under? known k = known.lookup name := by
      simp [under?, text?_of_readText hname]
    rw [pruneEntries, hunder]
    obtain ⟨hnone, hrest⟩ | ⟨f, change, hf, hfresh, hchange, hrest⟩ := hentry
    · cases hkeys : known.lookup name with
      | none => exact ih hrest
      | some keys => exact readEntries_cons_eq_ok_iff.2 ⟨name, hname, .inl ⟨hnone, ih hrest⟩⟩
    · obtain ⟨keys, hkeys, hspares⟩ := h f (List.mem_of_find?_eq_some hf)
      have hfname : f.name = name := by simpa using List.find?_some hf
      rw [hfname] at hkeys
      rw [hkeys]
      have hkept := hspares v change hchange
      exact readEntries_cons_eq_ok_iff.2
        ⟨name, hname, .inr ⟨f, change, hf, hfresh, hkept, ih hrest⟩⟩

theorem spares_record {r : Record Value α} (h : ∀ f ∈ r.fields, SparesField known f) :
    (fields known).Spares r.read := by
  intro v x hread
  match v with
  | map es =>
    have hentries : (do r.ofEntries (parts es)) = .ok x := Result.mapError_eq_ok.1 hread
    obtain ⟨⟨seen, y⟩, hseen, hrest⟩ := Result.exists_of_bind hentries
    have hpruned := readEntries_pruneEntries h hseen
    refine Result.mapError_eq_ok.2 ?_
    show r.ofEntries (parts (pruneEntries es known)) = .ok x
    simp only [Record.ofEntries, hpruned, bind, Except.bind]
    exact hrest
  | null | Value.bool _ | number _ | string _ | seq _ | tagged _ _ => exact hread

theorem spares_flat {r : Record Value α} {names : List String}
    (h : ∀ f ∈ r.fields, f.name ∈ names) : (flat names).Spares r.read :=
  spares_record fun f hf => .unchecked (lookup_flat (h f hf))

end Keys

/-! ## The parts of a manifest -/

namespace Manifest
open Keys

theorem spares_reference (name : String) : Keys.reference.Spares (Reference.record name).read :=
  spares_flat (by simp [Reference.record, Field.always])

theorem spares_networking : Keys.networking.Spares Networking.record.read := by
  refine spares_record ?_
  simp only [Networking.record, List.forall_mem_cons]
  exact ⟨.list rfl (spares_flat (by decide)), .list rfl (spares_flat (by decide)),
    .list rfl (spares_any _), .unchecked rfl, .unchecked rfl, by simp⟩

theorem spares_spec : Keys.spec.Spares Spec.record.read := by
  refine spares_record ?_
  simp only [Spec.record, List.forall_mem_cons]
  exact ⟨.optional rfl (spares_reference _), .always rfl (spares_reference _),
    .always rfl spares_networking, .unchecked rfl, .always rfl (spares_flat (by decide)),
    .unchecked rfl, .unchecked rfl, by simp⟩

theorem spares_ofValue : Keys.manifest.Spares ofValue := by
  refine spares_record ?_
  simp only [record, List.forall_mem_cons]
  exact ⟨.unchecked rfl, .unchecked rfl, .always rfl (spares_flat (by decide)),
    .always rfl spares_spec, .unchecked rfl, by simp⟩

/-! ## The two modes -/

variable {v : Value} {m : Manifest} {data : ByteArray}

/-- Strict decoding is lenient decoding with a report after it. -/
theorem decodeValue_strict (v : Value) :
    decodeValue .strict v = decodeValue .lenient v >>= fun m =>
      if Keys.unknown [] v Keys.manifest = [] then .ok m
      else .error (.unknownKeys (Keys.unknown [] v Keys.manifest)) := by
  by_cases hnull : v.same .null = true
  · simp [decodeValue, hnull, bind, Except.bind]
  · cases hvalue : ofValue v with
    | error e => simp [decodeValue, hnull, hvalue, bind, Except.bind]
    | ok m =>
      by_cases hknown : Keys.unknown [] v Keys.manifest = []
      · simp [decodeValue, hnull, hvalue, hknown, bind, Except.bind, pure, Except.pure]
      · simp [decodeValue, hnull, hvalue, hknown, bind, Except.bind, pure, Except.pure]

theorem decode_of_ofBytes (mode : ParseMode) (hblank : isBlankBytes data = false)
    (hv : Value.ofBytes data = .ok v) : decode mode data = decodeValue mode v := by
  simp [decode, hblank, hv, bind, Except.bind]

/-- A document in which keys were reported is decoded strictly once they are taken out. -/
theorem decodeValue_without (h : decodeValue .lenient v = .ok m) :
    decodeValue .strict (v.without (Keys.unknown [] v Keys.manifest) []) = .ok m := by
  obtain ⟨hnull, hvalue, -⟩ := decodeValue_eq_ok_iff.1 h
  rw [without_unknown]
  refine decodeValue_eq_ok_iff.2 ⟨?_, spares_ofValue v m hvalue, fun _ => ?_⟩
  · -- Pruning makes no document null: it keeps the kind of the value.
    cases v <;> exact hnull
  · exact admits_prune v Keys.manifest []

/-- **The modes differ by the report only.** Where lenient decoding fails, strict decoding fails in
the same way. Where lenient decoding finds a manifest, strict decoding finds the same one, or it
reports one key or more; and in that case it finds the manifest in what is left of the document
when exactly those keys are taken out. -/
theorem decode_strict_of_lenient (data : ByteArray) :
    (∀ e, decode .lenient data = .error e → decode .strict data = .error e) ∧
      ∀ m, decode .lenient data = .ok m → decode .strict data = .ok m ∨
        ∃ v paths, Value.ofBytes data = .ok v ∧ paths ≠ [] ∧
          decode .strict data = .error (.unknownKeys paths) ∧
            decodeValue .strict (v.without paths []) = .ok m := by
  constructor
  · intro e h
    cases hblank : isBlankBytes data with
    | true =>
      simpa [decode, hblank, bind, Except.bind] using h
    | false =>
      cases hv : Value.ofBytes data with
      | error cause =>
        simpa [decode, hblank, hv, bind, Except.bind] using h
      | ok v =>
        rw [decode_of_ofBytes _ hblank hv] at h ⊢
        rw [decodeValue_strict, h]
        rfl
  · intro m h
    obtain ⟨hblank, v, hv, -⟩ := decode_eq_ok_iff.1 h
    rw [decode_of_ofBytes _ hblank hv] at h ⊢
    by_cases hknown : Keys.unknown [] v Keys.manifest = []
    · refine .inl ?_
      rw [decodeValue_strict, h]
      exact if_pos hknown
    · refine .inr ⟨v, _, hv, hknown, ?_, decodeValue_without h⟩
      rw [decodeValue_strict, h]
      exact if_neg hknown

/-- A document with keys that no manifest has, one of them below a list. -/
def mistypedText : String :=
  "metadata:\n  owner: me\nspec:\n  networking:\n    clusterNetwork:\n    - hostprefix: 23\n"

theorem decode_strict_of_lenient_mistyped : ∃ m v paths,
    decode .lenient mistypedText.toUTF8 = .ok m ∧ Value.ofBytes mistypedText.toUTF8 = .ok v ∧
      paths ≠ [] ∧ decode .strict mistypedText.toUTF8 = .error (.unknownKeys paths) ∧
        decodeValue .strict (v.without paths []) = .ok m := by
  obtain ⟨m, hm⟩ : ∃ m, decode .lenient mistypedText.toUTF8 = .ok m := by decide +kernel
  have hstrict : ¬ ∃ m, decode .strict mistypedText.toUTF8 = .ok m := by decide +kernel
  obtain hsame | ⟨v, paths, hv, hpaths, herror, hwithout⟩ :=
    (decode_strict_of_lenient mistypedText.toUTF8).2 m hm
  · exact absurd ⟨m, hsame⟩ hstrict
  · exact ⟨m, v, paths, hm, hv, hpaths, herror, hwithout⟩

end Manifest
end InstallManifest
