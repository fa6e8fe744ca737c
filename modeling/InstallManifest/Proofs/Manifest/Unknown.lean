import InstallManifest.Proofs.Manifest.Shape
import InstallManifest.Proofs.Manifest.Sites
import InstallManifest.Proofs.Yaml.Document
import Mathlib.Data.List.Nodup

/-!
# What strict decoding reports

The report is made by a walk over the document and the table of keys. What it is to contain can be
said without the walk: the table allows something or nothing at a place (`Keys.at?`), and a key is
unknown if the table has a set of keys where it stands and it is none of them (`Keys.IsUnknown`). So
nothing is unknown below an unknown key, nor below what is not checked. The report lists exactly the
unknown keys of the document, in document order and each once (`Manifest.decode_strict_report`).

A key that is no text has no place in a path. But where the table has a set of keys there stands a
record, and whoever reads one refuses such keys (`Keys.Named`). So there are none in the report.
-/
namespace InstallManifest
open Yaml Value

/-! ## Paths as texts -/

/-- A step as it is written behind others: a key behind a dot, the index of an item in brackets. -/
def Yaml.Step.suffix : Step → String
  | .key name => "." ++ name
  | .unnamed => ".?"
  | .item i => "[" ++ Text.Numeral.decimal i ++ "]"

/-- The dotted path of a key. -/
def Yaml.Path.dotted : Path → String
  | .key name :: path => name ++ String.join (path.map Step.suffix)
  | path => String.join (path.map Step.suffix)

namespace Yaml.Path

theorem textAfter_some (before : String) (path : Path) :
    textAfter (some before) path = before ++ String.join (path.map Step.suffix) := by
  induction path generalizing before with
  | nil => simp [textAfter]
  | cons step path ih =>
    cases step with
    | key name => simp [textAfter, lead, ih, Step.suffix, String.append_assoc]
    | unnamed => simp [textAfter, lead, ih, Step.suffix, String.append_assoc]
    | item i => simp [textAfter, ih, Step.suffix, String.append_assoc]

theorem text_key_cons (name : String) (path : Path) :
    text (.key name :: path) = dotted (.key name :: path) := by
  rw [text, textAfter, textAfter_some]
  simp [lead, dotted]

end Yaml.Path

namespace Keys
variable {keys inner : Keys} {known : List (String × Keys)} {path place rest : Path}

/-! ## Places of a table -/

/-- What is allowed behind a step to a known key or to an item of a list. -/
def next? : Keys → Step → Option Keys
  | fields known, .key name => known.lookup name
  | items inner, .item _ => some inner
  | _, _ => none

/-- What is allowed at a place, if known keys and items of lists lead there. -/
def at? : Keys → Path → Option Keys
  | keys, [] => some keys
  | keys, step :: path => (keys.next? step).bind fun next => next.at? path

/-- Whether the table has a set of keys where a key stands, and the key is none of them. -/
def IsUnknown (keys : Keys) (path : Path) : Prop :=
  ∃ place name known, path = place ++ [.key name] ∧ keys.at? place = some (fields known) ∧
    name ∉ known.map (·.1)

theorem at?_append (keys : Keys) (place rest : Path) :
    keys.at? (place ++ rest) = (keys.at? place).bind (·.at? rest) := by
  induction place generalizing keys with
  | nil => rfl
  | cons step place ih =>
    rw [List.cons_append, at?, at?, Option.bind_assoc]
    exact congrArg _ (funext ih)

/-- Names and indices lead to the places of a table. -/
theorem unnamed_not_mem_of_at? (h : keys.at? place = some inner) : .unnamed ∉ place := by
  induction place generalizing keys with
  | nil => simp
  | cons step place ih =>
    obtain ⟨next, hnext, hrest⟩ := Option.bind_eq_some_iff.1 h
    have hstep : .unnamed ≠ step := by
      rintro rfl
      cases keys <;> cases hnext
    rw [List.mem_cons, not_or]
    exact ⟨hstep, ih hrest⟩

theorem lookup_eq_none_iff_not_mem {name : String} :
    known.lookup name = none ↔ name ∉ known.map (·.1) := by
  rw [List.lookup_eq_none_iff]
  constructor
  · intro h hmem
    obtain ⟨e, he, rfl⟩ := List.mem_map.1 hmem
    simpa using h e he
  · intro h e he
    rw [bne_iff_ne]
    rintro rfl
    exact h (List.mem_map_of_mem he)

/-! ## Unknown keys -/

namespace IsUnknown

/-- The table says nothing of what an unknown key leads to. -/
theorem at?_eq_none (h : keys.IsUnknown path) : keys.at? path = none := by
  obtain ⟨place, name, known, rfl, hplace, hname⟩ := h
  have hlookup : known.lookup name = none := lookup_eq_none_iff_not_mem.2 hname
  rw [at?_append, hplace, Option.bind_some, at?, next?, hlookup, Option.bind_none]

/-- What leads to an unknown key leads to a place with a set of keys. -/
theorem cases_of_isPrefix (h : keys.IsUnknown path) (hleads : place <+: path) :
    place = path ∨ ∃ inner rest known, keys.at? place = some inner ∧
      inner.at? rest = some (fields known) := by
  obtain ⟨before, name, known, rfl, hbefore, -⟩ := h
  rcases List.prefix_concat_iff.1 hleads with rfl | ⟨rest, rfl⟩
  · exact .inl rfl
  · rw [at?_append] at hbefore
    obtain ⟨inner, hinner, hrest⟩ := Option.bind_eq_some_iff.1 hbefore
    exact .inr ⟨inner, rest, known, hinner, hrest⟩

/-- No unknown key is below another one. -/
theorem eq_of_isPrefix {path' : Path} (h : keys.IsUnknown path) (h' : keys.IsUnknown path')
    (hleads : path <+: path') : path = path' := by
  rcases h'.cases_of_isPrefix hleads with hsame | ⟨inner, rest, known, hinner, -⟩
  · exact hsame
  · rw [h.at?_eq_none] at hinner
    cases hinner

/-- Nothing is unknown below what is not checked. -/
theorem not_isPrefix (h : keys.IsUnknown path) (hplace : keys.at? place = some any) :
    ¬ place <+: path := by
  intro hleads
  rcases h.cases_of_isPrefix hleads with rfl | ⟨inner, rest, known, hinner, hrest⟩
  · rw [h.at?_eq_none] at hplace
    cases hplace
  · obtain rfl : any = inner := Option.some.inj (hplace.symm.trans hinner)
    -- No step leads on from there, and there is no set of keys, either.
    cases rest <;> cases hrest

theorem unnamed_not_mem (h : keys.IsUnknown path) : .unnamed ∉ path := by
  obtain ⟨place, name, known, rfl, hplace, -⟩ := h
  simpa using unnamed_not_mem_of_at? hplace

/-- The path of an unknown key starts with a key, if a mapping is expected at the root. -/
theorem exists_key (h : (fields known).IsUnknown path) :
    ∃ name below, path = .key name :: below := by
  obtain ⟨place, name, inner, rfl, hplace, -⟩ := h
  match place with
  | [] => exact ⟨name, [], rfl⟩
  | .key first :: place => exact ⟨first, place ++ [.key name], rfl⟩
  | .unnamed :: place | .item i :: place => cases hplace

end IsUnknown

/-! ## The keys that are reported -/

theorem refuses_cons (keys : Keys) (step : Step) (hne : path ≠ []) :
    keys.refuses (step :: path) = (keys.next? step).any (·.refuses path) := by
  have hempty : path.isEmpty = false := by simpa using hne
  match keys, step with
  | fields known, .key name =>
    rw [refuses, next?]
    cases known.lookup name with
    | some keys => rfl
    | none => exact hempty
  | fields known, .unnamed => exact hempty
  | items inner, .item i => rfl
  | fields _, .item _ | items _, .key _ | items _, .unnamed | any, .key _ | any, .unnamed
  | any, .item _ => rfl

/-- Whether a key is refused is decided where it stands. -/
theorem refuses_concat (keys : Keys) (place : Path) (last : Step) :
    keys.refuses (place ++ [last]) = (keys.at? place).any (·.refuses [last]) := by
  induction place generalizing keys with
  | nil => rfl
  | cons step place ih =>
    rw [List.cons_append, refuses_cons keys step (by simp), at?]
    cases keys.next? step with
    | some next => exact ih next
    | none => rfl

theorem refuses_single_iff {name : String} :
    inner.refuses [.key name] ↔ ∃ known, inner = fields known ∧ name ∉ known.map (·.1) := by
  cases inner with
  | fields known =>
    simp only [fields.injEq, exists_eq_left', ← lookup_eq_none_iff_not_mem, refuses]
    cases known.lookup name with
    | some keys => simp
    | none => simp
  | items inner => simp [refuses]
  | any => simp [refuses_any]

/-- The report is about the unknown keys, as far as they have names. -/
theorem refuses_iff_isUnknown (keys : Keys) (hnamed : .unnamed ∉ path) :
    keys.refuses path ↔ keys.IsUnknown path := by
  rcases List.eq_nil_or_concat' path with rfl | ⟨place, last, rfl⟩
  · refine iff_of_false (by simp [refuses_nil]) ?_
    rintro ⟨place, name, known, hpath, -⟩
    simp at hpath
  rw [refuses_concat, Option.any_eq_true]
  constructor
  · rintro ⟨inner, hinner, hrefuses⟩
    match last with
    | .key name =>
      obtain ⟨known, rfl, hname⟩ := refuses_single_iff.1 hrefuses
      exact ⟨place, name, known, rfl, hinner, hname⟩
    | .unnamed => simp at hnamed
    | .item i => cases inner <;> simp [refuses, refuses_nil] at hrefuses
  · rintro ⟨place', name, known, hpath, hplace, hname⟩
    obtain ⟨rfl, rfl⟩ : place = place' ∧ last = .key name := by simpa using hpath
    exact ⟨fields known, hplace, refuses_single_iff.2 ⟨known, rfl, hname⟩⟩

/-! ## Readers refuse keys without a name -/

/-- Whether, in what a reader accepts, every key that a table refuses has a name. -/
def Named {α : Type} (keys : Keys) (read : Value → Except ReadError α) : Prop :=
  ∀ v x, read v = .ok x → ∀ path, v.HasKey false path → keys.refuses path → .unnamed ∉ path

variable {α β : Type}

theorem named_any (read : Value → Except ReadError α) : any.Named read := by
  intro v x _ path _ hrefuses
  rw [refuses_any] at hrefuses
  cases hrefuses

theorem named_list {c : Codec Value α} (h : inner.Named c.read) :
    (items inner).Named c.list.read := by
  intro v xs hread path hkey hrefuses
  match v with
  | seq vs =>
    have hxs : vs.mapM c.read = .ok xs := hread
    obtain ⟨i, w, below, hmem, rfl, hbelow⟩ := HasKey.seq_iff.1 hkey
    obtain ⟨x, hx⟩ := Result.exists_of_mapM_eq_ok hxs (List.mem_of_getElem? hmem)
    have hnamed := h w x hx below hbelow hrefuses
    simpa using hnamed
  | map es =>
    obtain ⟨k, below, rfl⟩ := hkey.exists_step
    simp [refuses_items_step] at hrefuses
  | null | Value.bool _ | number _ | string _ | tagged _ _ => cases hkey <;> contradiction

/-- Whether a table has the name of a field, and its reader accepts no unknown key without a name. -/
def NamedField (known : List (String × Keys)) (f : Field Value α) : Prop :=
  ∃ keys, known.lookup f.name = some keys ∧ keys.Named f.read

namespace NamedField
variable {name : String} {c : Codec Value β}

theorem unchecked {f : Field Value α} (hname : known.lookup f.name = some any) :
    NamedField known f := ⟨any, hname, named_any _⟩

theorem always {get : α → β} {set : β → α → α} (hname : known.lookup name = some keys)
    (h : keys.Named c.read) : NamedField known (.always name get set c) := by
  refine ⟨keys, hname, fun v change hread => ?_⟩
  obtain ⟨y, hy, rfl⟩ := Result.exists_of_map hread
  exact h v y hy

theorem optional {get : α → Option β} {set : Option β → α → α}
    (hname : known.lookup name = some keys) (h : keys.Named c.read) :
    NamedField known (.optional name get set c) := by
  refine ⟨keys, hname, fun v change hread path hkey => ?_⟩
  obtain ⟨rfl, rfl⟩ | ⟨-, y, hy, rfl⟩ := Yaml.Field.exists_of_read_optional hread
  · cases hkey
  · exact h v y hy path hkey

theorem list {get : α → List β} {set : List β → α → α}
    (hname : known.lookup name = some (items inner)) (h : inner.Named c.read) :
    NamedField known (.list name get set c) := by
  have hlist : NamedField known (.always name get set c.list) := always hname (named_list h)
  exact hlist

end NamedField

/-- The keys of a record are texts, and below those that the table knows there are its fields. -/
theorem named_record {r : Record Value α} (h : ∀ f ∈ r.fields, NamedField known f)
    (hknown : known.map (·.1) = r.fields.map (·.name)) : (fields known).Named r.read := by
  intro v x hread path hkey hrefuses
  match v with
  | seq _ => cases hread
  | null | Value.bool _ | number _ | string _ | tagged _ _ => cases hkey <;> contradiction
  | map es =>
    have hentries : (do r.ofEntries (parts es)) = .ok x := Result.mapError_eq_ok.1 hread
    obtain ⟨outcome, houtcome, -⟩ := Result.exists_of_bind hentries
    have hfields := Shape.forall_of_readEntries houtcome
    cases hkey with
    | here hmem =>
      obtain ⟨name, hname, -⟩ := hfields _ hmem
      simp [step, hname]
    | @entry es k w below hmem hbelow =>
      obtain ⟨name, hname, hfield⟩ := hfields _ hmem
      have hstep : step k = .key name := by simp [step, hname]
      cases hkeys : known.lookup name with
      | none =>
        rw [refuses_step_of_none (by simp [under?, hname, hkeys])] at hrefuses
        exact absurd (List.isEmpty_iff.1 hrefuses) hbelow.ne_nil
      | some keys =>
        rw [refuses_step_of_some (by simp [under?, hname, hkeys] : under? known k = some keys)]
          at hrefuses
        obtain ⟨f, hf, hfmem, rfl⟩ := Shape.exists_field (hknown ▸ Shape.mem_names_of_lookup hkeys)
        obtain ⟨keys', hkeys', hnamed⟩ := h f hfmem
        obtain rfl : keys' = keys := Option.some.inj (hkeys'.symm.trans hkeys)
        obtain ⟨change, hchange⟩ := hfield f hf
        simpa [hstep] using hnamed w change hchange below hbelow hrefuses

theorem named_flat {r : Record Value α} {names : List String}
    (h : r.fields.map (·.name) = names) : (flat names).Named r.read := by
  refine named_record (fun f hf => .unchecked (lookup_flat (h ▸ List.mem_map_of_mem hf))) ?_
  rw [h]
  simp [Function.comp_def]

end Keys

/-! ## The parts of a manifest -/

namespace Manifest
open Keys

theorem named_reference (name : String) : Keys.reference.Named (Reference.record name).read :=
  named_flat rfl

theorem named_networking : Keys.networking.Named Networking.record.read := by
  refine named_record ?_ rfl
  simp only [Networking.record, List.forall_mem_cons]
  exact ⟨.list rfl (named_flat rfl), .list rfl (named_flat rfl), .list rfl (named_any _),
    .unchecked rfl, .unchecked rfl, by simp⟩

theorem named_spec : Keys.spec.Named Spec.record.read := by
  refine named_record ?_ rfl
  simp only [Spec.record, List.forall_mem_cons]
  exact ⟨.optional rfl (named_reference _), .always rfl (named_reference _),
    .always rfl named_networking, .unchecked rfl, .always rfl (named_flat rfl),
    .unchecked rfl, .unchecked rfl, by simp⟩

theorem named_ofValue : Keys.manifest.Named ofValue := by
  refine named_record ?_ rfl
  simp only [record, List.forall_mem_cons]
  exact ⟨.unchecked rfl, .unchecked rfl, .always rfl (named_flat rfl), .always rfl named_spec,
    .unchecked rfl, by simp⟩

/-! ## Strict decoding -/

/-- The places of free-form data. -/
def freeForm : List Path :=
  [[.key "status"], [.key "metadata", .key "labels"], [.key "metadata", .key "annotations"]]

theorem at?_freeForm : ∀ place ∈ freeForm, Keys.manifest.at? place = some .any := by
  simp only [freeForm, List.forall_mem_cons]
  exact ⟨rfl, rfl, rfl, by simp⟩

variable {data : ByteArray} {m : Manifest} {v : Value}

/-- The sites of the keys that are reported. -/
def unknownSites (v : Value) : List (List Nat × Path) :=
  v.keySites.filter fun site => Keys.manifest.refuses site.2

theorem unknown_eq_map (v : Value) :
    Keys.unknown [] v Keys.manifest = (unknownSites v).map (·.2) := by
  rw [Keys.unknown_eq_filter, ← map_keySites, List.filter_map]
  simp [unknownSites, Function.comp_def]

/-- The sites of the report are those of the unknown keys. -/
theorem mem_unknownSites_iff (hvalue : ofValue v = .ok m) (position : List Nat) (path : Path) :
    (position, path) ∈ unknownSites v ↔
      (∃ key, v.KeyAt position path key) ∧ Keys.manifest.IsUnknown path := by
  rw [unknownSites, List.mem_filter, mem_keySites_iff]
  constructor
  · rintro ⟨⟨key, hkey⟩, hrefuses⟩
    have hplace : path ∈ v.keySites.map (·.2) :=
      List.mem_map_of_mem ((mem_keySites_iff v).2 ⟨key, hkey⟩)
    rw [map_keySites, mem_keyPlaces_iff] at hplace
    have hnamed := named_ofValue v m hvalue path hplace hrefuses
    exact ⟨⟨key, hkey⟩, (refuses_iff_isUnknown _ hnamed).1 hrefuses⟩
  · rintro ⟨hkey, hunknown⟩
    exact ⟨hkey, (refuses_iff_isUnknown _ hunknown.unnamed_not_mem).2 hunknown⟩

/-- Where no key carries a tag, no path is listed twice. -/
theorem nodup_unknownSites (hdistinct : v.hasDistinctKeys)
    (htags : ∀ position path key, v.KeyAt position path key → key.untag = key)
    (hvalue : ofValue v = .ok m) : ((unknownSites v).map (·.2)).Nodup := by
  have hsites : (unknownSites v).Nodup := by
    refine List.Pairwise.imp (fun {a b} hlt heq => ?_) ((pairwise_keySites v).filter _)
    rw [heq] at hlt
    exact List.lt_irrefl _ hlt
  refine List.Nodup.map_on ?_ hsites
  rintro ⟨position, path⟩ hmem ⟨position', path'⟩ hmem' rfl
  obtain ⟨⟨key, hkey⟩, hunknown⟩ := (mem_unknownSites_iff hvalue _ _).1 hmem
  obtain ⟨⟨key', hkey'⟩, -⟩ := (mem_unknownSites_iff hvalue _ _).1 hmem'
  rw [hkey.position_unique hkey' hdistinct htags hunknown.unnamed_not_mem]

/-- **What strict decoding reports.** Of a document that can be read as a manifest, the unknown keys
are listed in document order, each of them once and no others: those outside of values under a tag
that are reached through known keys and items of lists, where the table has a set of keys and they
are none of them, whatever value they have. Strict decoding reports their paths, which are dotted
and have the indices of items in brackets, or finds the manifest if there are none. No path that is
reported leads to another one, and none is in the status, the labels, the annotations or anything
else that is not checked. No path is reported twice, if no key of the document carries a tag. -/
theorem decode_strict_report (h : decode .lenient data = .ok m) :
    ∃ v, Value.ofBytes data = .ok v ∧ ∃ sites : List (List Nat × Path),
      let paths := sites.map (·.2)
      sites.Pairwise (·.1 < ·.1) ∧
      (∀ position path, (position, path) ∈ sites ↔
        (∃ key, v.KeyAt position path key) ∧ Keys.manifest.IsUnknown path) ∧
      (decode .strict data = if paths = [] then .ok m else .error (.unknownKeys paths)) ∧
      paths.map Path.text = paths.map Path.dotted ∧
      (∀ path ∈ paths, ∀ path' ∈ paths, path <+: path' → path = path') ∧
      (∀ place, place ∈ freeForm ∨ Keys.manifest.at? place = some .any →
        ∀ path ∈ paths, ¬ place <+: path) ∧
      ((∀ position path key, v.KeyAt position path key → key.untag = key) → paths.Nodup) := by
  obtain ⟨hblank, v, hv, hnull, hvalue, -⟩ := decode_eq_ok_iff.1 h
  have hunknown : ∀ path ∈ (unknownSites v).map (·.2), Keys.manifest.IsUnknown path := by
    intro path hpath
    obtain ⟨⟨position, path⟩, hmem, rfl⟩ := List.mem_map.1 hpath
    exact ((mem_unknownSites_iff hvalue _ _).1 hmem).2
  refine ⟨v, hv, unknownSites v, (pairwise_keySites v).filter _, mem_unknownSites_iff hvalue,
    ?_, ?_, ?_, ?_, fun htags => nodup_unknownSites ?_ htags hvalue⟩
  · have hlenient : decodeValue .lenient v = .ok m :=
      decodeValue_eq_ok_iff.2 ⟨hnull, hvalue, nofun⟩
    rw [decode_of_ofBytes _ hblank hv, decodeValue_strict, hlenient, unknown_eq_map]
    rfl
  · refine List.map_congr_left fun path hpath => ?_
    obtain ⟨name, below, rfl⟩ := (hunknown path hpath).exists_key
    exact Path.text_key_cons name below
  · exact fun path hpath path' hpath' =>
      (hunknown path hpath).eq_of_isPrefix (hunknown path' hpath')
  · intro place hplace path hpath
    exact (hunknown path hpath).not_isPrefix (hplace.elim (at?_freeForm place) id)
  · exact Value.hasDistinctKeys_of_ofBytes hv

/-- A document with keys that no manifest has: one without a value, one in a list, and others under
a tag and in the status. -/
def crowdedText : String :=
  "metadata:\n  owner:\nspec:\n  networking:\n    clusterNetwork:\n    - size: []\n" ++
    "  imageSetRef: !t\n    tag: 1\nstatus:\n  up: 1\n"

theorem decode_strict_report_crowded : ∃ sites : List (List Nat × Path),
    sites.Pairwise (·.1 < ·.1) ∧
      decode .strict crowdedText.toUTF8 = .error (.unknownKeys (sites.map (·.2))) ∧
      (sites.map (·.2)).map Path.dotted =
        ["metadata.owner", "spec.networking.clusterNetwork[0].size"] := by
  obtain ⟨m, hm⟩ : ∃ m, decode .lenient crowdedText.toUTF8 = .ok m := by decide +kernel
  have htexts : (match decode .strict crowdedText.toUTF8 with
      | .error (.unknownKeys paths) => paths.map Path.text
      | _ => []) =
        ["metadata.owner", "spec.networking.clusterNetwork[0].size"] := by
    decide +kernel
  obtain ⟨v, -, sites, hsorted, -, hstrict, hdotted, -⟩ := decode_strict_report hm
  rw [hstrict] at htexts
  by_cases hnone : sites.map (·.2) = []
  · rw [if_pos hnone] at htexts
    cases htexts
  · rw [if_neg hnone] at hstrict htexts
    exact ⟨sites, hsorted, hstrict, hdotted ▸ htexts⟩

end Manifest
end InstallManifest
