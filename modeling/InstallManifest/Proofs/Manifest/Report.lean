import InstallManifest.Manifest.Keys

/-!
# What is reported of a document

A key of a document has a place: the steps that lead to it (`Value.HasKey`). A table of keys says of
every place, whatever the document, whether it refuses a key there (`Keys.refuses`). The report on a
document consists of the places of its keys that are refused, in document order
(`Keys.unknown_eq_filter`).
-/
namespace InstallManifest
open Yaml Value

namespace Yaml.Value

/-- Whether a value has a key at a place. Keys under a tag count only if tags are seen through. -/
inductive HasKey (tags : Bool) : Value → Path → Prop
  | here {es : List (Value × Value)} {k v : Value} (hmem : (k, v) ∈ es) :
      HasKey tags (map es) [Keys.step k]
  | entry {es : List (Value × Value)} {k v : Value} {path : Path} (hmem : (k, v) ∈ es)
      (hkey : v.HasKey tags path) : HasKey tags (map es) (Keys.step k :: path)
  | item {vs : List Value} {i : Nat} {v : Value} {path : Path} (hmem : vs[i]? = some v)
      (hkey : v.HasKey tags path) : HasKey tags (seq vs) (.item i :: path)
  | tagged {tag : String} {v : Value} {path : Path} (htags : tags = true)
      (hkey : v.HasKey tags path) : HasKey tags (tagged tag v) path

namespace HasKey
variable {tags : Bool} {es : List (Value × Value)} {vs : List Value} {k v : Value} {path : Path}

theorem ne_nil (h : v.HasKey tags path) : path ≠ [] := by
  induction h with
  | tagged _ _ ih => exact ih
  | _ => simp

theorem map_cons_iff : (map ((k, v) :: es)).HasKey tags path ↔
    (path = [Keys.step k] ∨ ∃ below, path = Keys.step k :: below ∧ v.HasKey tags below) ∨
      (map es).HasKey tags path := by
  constructor
  · intro h
    cases h with
    | here hmem =>
      obtain ⟨⟨⟩⟩ | hmem := List.mem_cons.1 hmem
      · exact .inl (.inl rfl)
      · exact .inr (.here hmem)
    | entry hmem hkey =>
      obtain ⟨⟨⟩⟩ | hmem := List.mem_cons.1 hmem
      · exact .inl (.inr ⟨_, rfl, hkey⟩)
      · exact .inr (.entry hmem hkey)
  · rintro ((rfl | ⟨below, rfl, hkey⟩) | h)
    · exact .here List.mem_cons_self
    · exact .entry List.mem_cons_self hkey
    · cases h with
      | here hmem => exact .here (List.mem_cons_of_mem _ hmem)
      | entry hmem hkey => exact .entry (List.mem_cons_of_mem _ hmem) hkey

theorem exists_step (h : (map es).HasKey tags path) :
    ∃ k below, path = Keys.step k :: below := by
  cases h with
  | here _ | entry _ _ => exact ⟨_, _, rfl⟩

theorem seq_iff : (seq vs).HasKey tags path ↔
    ∃ i v below, vs[i]? = some v ∧ path = .item i :: below ∧ v.HasKey tags below := by
  constructor
  · intro h
    cases h with
    | item hmem hkey => exact ⟨_, _, _, hmem, rfl, hkey⟩
  · rintro ⟨i, v, below, hmem, rfl, hkey⟩
    exact .item hmem hkey

/-- The keys of a mapping are those of its entries and those below them. -/
theorem forall_map_iff {p : Path → Prop} : (∀ path, (map es).HasKey tags path → p path) ↔
    ∀ k v, (k, v) ∈ es →
      p [Keys.step k] ∧ ∀ below, v.HasKey tags below → p (Keys.step k :: below) := by
  constructor
  · exact fun h k v hmem => ⟨h _ (.here hmem), fun below hkey => h _ (.entry hmem hkey)⟩
  · intro h path hkey
    cases hkey with
    | here hmem => exact (h _ _ hmem).1
    | entry hmem hbelow => exact (h _ _ hmem).2 _ hbelow

theorem forall_seq_iff {p : Path → Prop} : (∀ path, (seq vs).HasKey tags path → p path) ↔
    ∀ i v, vs[i]? = some v → ∀ below, v.HasKey tags below → p (.item i :: below) := by
  constructor
  · exact fun h i v hmem below hkey => h _ (.item hmem hkey)
  · intro h path hkey
    cases hkey with
    | item hmem hbelow => exact h _ _ hmem _ hbelow

theorem tagged_iff {tag : String} : (Value.tagged tag v).HasKey tags path ↔
    tags = true ∧ v.HasKey tags path := by
  constructor
  · intro h
    cases h with
    | tagged htags hkey => exact ⟨htags, hkey⟩
  · rintro ⟨htags, hkey⟩
    exact .tagged htags hkey

end HasKey

mutual

/-- The places of the keys of a value, in document order. -/
def keyPlaces (tags : Bool) : Value → List Path
  | map es => keyPlacesOfEntries tags es
  | seq vs => keyPlacesOfItems tags 0 vs
  | tagged _ v => if tags then v.keyPlaces tags else []
  | _ => []

def keyPlacesOfEntries (tags : Bool) : List (Value × Value) → List Path
  | [] => []
  | (k, v) :: es =>
    [Keys.step k] :: (v.keyPlaces tags).map (Keys.step k :: ·) ++ keyPlacesOfEntries tags es

def keyPlacesOfItems (tags : Bool) (index : Nat) : List Value → List Path
  | [] => []
  | v :: vs => (v.keyPlaces tags).map (.item index :: ·) ++ keyPlacesOfItems tags (index + 1) vs

end

mutual

theorem mem_keyPlaces_iff {tags : Bool} {path : Path} (v : Value) :
    path ∈ v.keyPlaces tags ↔ v.HasKey tags path := by
  match v with
  | map es => rw [keyPlaces, mem_keyPlacesOfEntries_iff es]
  | seq vs =>
    rw [keyPlaces, mem_keyPlacesOfItems_iff vs, HasKey.seq_iff]
    simp only [Nat.zero_add]
  | tagged tag v =>
    rw [keyPlaces, HasKey.tagged_iff, ← mem_keyPlaces_iff v]
    cases tags <;> simp
  | null | Value.bool _ | number _ | string _ =>
    refine iff_of_false (by simp [keyPlaces]) ?_
    rintro ⟨⟩

theorem mem_keyPlacesOfEntries_iff {tags : Bool} {path : Path} (es : List (Value × Value)) :
    path ∈ keyPlacesOfEntries tags es ↔ (map es).HasKey tags path := by
  match es with
  | [] =>
    refine iff_of_false (by simp [keyPlacesOfEntries]) fun h => ?_
    cases h <;> contradiction
  | (k, v) :: es =>
    simp only [keyPlacesOfEntries, HasKey.map_cons_iff, List.cons_append, List.mem_cons,
      List.mem_append, List.mem_map, mem_keyPlaces_iff v, mem_keyPlacesOfEntries_iff es]
    simp only [or_assoc, eq_comm, and_comm]

theorem mem_keyPlacesOfItems_iff {tags : Bool} {path : Path} {index : Nat} (vs : List Value) :
    path ∈ keyPlacesOfItems tags index vs ↔
      ∃ i v below, vs[i]? = some v ∧ path = .item (index + i) :: below ∧
        v.HasKey tags below := by
  match vs with
  | [] => simp [keyPlacesOfItems]
  | v :: vs =>
    rw [keyPlacesOfItems, List.mem_append, List.mem_map, mem_keyPlacesOfItems_iff vs]
    simp only [mem_keyPlaces_iff v]
    constructor
    · rintro (⟨below, hkey, rfl⟩ | ⟨i, w, below, hmem, rfl, hkey⟩)
      · exact ⟨0, v, below, rfl, rfl, hkey⟩
      · exact ⟨i + 1, w, below, hmem, by rw [Nat.add_right_comm, Nat.add_assoc], hkey⟩
    · rintro ⟨i, w, below, hmem, rfl, hkey⟩
      cases i with
      | zero =>
        obtain rfl : v = w := Option.some.inj hmem
        exact .inl ⟨below, hkey, rfl⟩
      | succ i =>
        exact .inr ⟨i, w, below, hmem, by rw [Nat.add_right_comm, Nat.add_assoc], hkey⟩

end

instance (tags : Bool) (v : Value) (path : Path) : Decidable (v.HasKey tags path) :=
  decidable_of_iff ((v.keyPlaces tags).contains path)
    (List.contains_iff_mem.trans (mem_keyPlaces_iff v))

end Yaml.Value

namespace Keys

/-- Whether a key is not allowed at a place, seen from one with the given keys. Nothing is refused
below a key that is. -/
def refuses : Keys → Path → Bool
  | fields known, .key name :: path =>
    match known.lookup name with
    | some keys => keys.refuses path
    | none => path.isEmpty
  | fields _, .unnamed :: path => path.isEmpty
  | items inner, .item _ :: path => inner.refuses path
  | _, _ => false

variable {known : List (String × Keys)} {k : Value} {keys inner : Keys}

theorem refuses_nil (keys : Keys) : keys.refuses [] = false := by
  cases keys <;> rfl

theorem refuses_step_of_some (h : under? known k = some keys) (path : Path) :
    (fields known).refuses (step k :: path) = keys.refuses path := by
  obtain ⟨name, hname, hlookup⟩ := Option.bind_eq_some_iff.1 h
  simp only [step, hname, refuses, hlookup]

theorem refuses_step_of_none (h : under? known k = none) (path : Path) :
    (fields known).refuses (step k :: path) = path.isEmpty := by
  cases hname : k.text? with
  | none => simp only [step, hname, refuses]
  | some name =>
    have hlookup : known.lookup name = none := by simpa [under?, hname] using h
    simp only [step, hname, refuses, hlookup]

theorem refuses_items_step (k : Value) (path : Path) :
    (items inner).refuses (step k :: path) = false := by
  cases hname : k.text? <;> simp only [step, hname, refuses]

theorem refuses_fields_item (i : Nat) (path : Path) :
    (fields known).refuses (.item i :: path) = false := rfl

theorem refuses_any (path : Path) : any.refuses path = false := by
  cases path <;> rfl

/-! ## The report -/

mutual

/-- **The report lists the keys that the table refuses**, in document order. -/
theorem unknown_eq_filter (path : Path) (v : Value) (keys : Keys) :
    unknown path v keys = ((v.keyPlaces false).filter keys.refuses).map (path ++ ·) := by
  match v, keys with
  | map es, fields known => rw [unknown, keyPlaces, unknownOfEntries_eq_filter path es known]
  | seq vs, items inner => rw [unknown, keyPlaces, unknownOfItems_eq_filter path 0 vs inner]
  | v, any =>
    have hnone : (v.keyPlaces false).filter any.refuses = [] :=
      List.filter_eq_nil_iff.2 fun place _ => by simp [refuses_any]
    simp [unknown, hnone]
  | map es, items inner =>
    have hnone : ((map es).keyPlaces false).filter (items inner).refuses = [] := by
      refine List.filter_eq_nil_iff.2 fun place hplace => ?_
      obtain ⟨k, below, rfl⟩ := ((mem_keyPlaces_iff _).1 hplace).exists_step
      simp [refuses_items_step]
    simp [unknown, hnone]
  | seq vs, fields known =>
    have hnone : ((seq vs).keyPlaces false).filter (fields known).refuses = [] := by
      refine List.filter_eq_nil_iff.2 fun place hplace => ?_
      obtain ⟨i, w, below, -, rfl, -⟩ := HasKey.seq_iff.1 ((mem_keyPlaces_iff _).1 hplace)
      simp [refuses_fields_item]
    simp [unknown, hnone]
  | null, _ | Value.bool _, _ | number _, _ | string _, _ | tagged _ _, _ =>
    -- Neither scalars nor values under a tag have keys.
    simp [unknown, keyPlaces]

theorem unknownOfEntries_eq_filter (path : Path) (es : List (Value × Value))
    (known : List (String × Keys)) :
    unknownOfEntries path es known =
      ((keyPlacesOfEntries false es).filter (fields known).refuses).map (path ++ ·) := by
  match es with
  | [] => rfl
  | (k, v) :: es =>
    rw [unknownOfEntries, keyPlacesOfEntries, unknownOfEntries_eq_filter path es known,
      List.filter_append, List.map_append, List.filter_cons, List.filter_map]
    congr 1
    cases hkeys : under? known k with
    | none =>
      have hnone : (v.keyPlaces false).filter ((fields known).refuses ∘ (step k :: ·)) = [] := by
        refine List.filter_eq_nil_iff.2 fun place hplace => ?_
        have hne := ((mem_keyPlaces_iff v).1 hplace).ne_nil
        simp [refuses_step_of_none hkeys, hne]
      simp [refuses_step_of_none hkeys, hnone]
    | some keys =>
      have hsame : (fields known).refuses ∘ (step k :: ·) = keys.refuses :=
        funext (refuses_step_of_some hkeys)
      simp [refuses_step_of_some hkeys, refuses_nil, hsame, unknown_eq_filter (path ++ [step k]) v]

theorem unknownOfItems_eq_filter (path : Path) (index : Nat) (vs : List Value) (inner : Keys) :
    unknownOfItems path index vs inner =
      ((keyPlacesOfItems false index vs).filter (items inner).refuses).map (path ++ ·) := by
  match vs with
  | [] => rfl
  | v :: vs =>
    have hsame : (items inner).refuses ∘ (.item index :: ·) = inner.refuses := rfl
    rw [unknownOfItems, keyPlacesOfItems, unknownOfItems_eq_filter path (index + 1) vs inner,
      List.filter_append, List.map_append, List.filter_map, hsame,
      unknown_eq_filter (path ++ [Step.item index]) v inner]
    simp

end

theorem mem_unknown_iff {path : Path} {v : Value} {keys : Keys} :
    path ∈ unknown [] v keys ↔ v.HasKey false path ∧ keys.refuses path := by
  simp [unknown_eq_filter, mem_keyPlaces_iff]

theorem unknown_eq_nil_iff {v : Value} {keys : Keys} :
    unknown [] v keys = [] ↔ ∀ path, v.HasKey false path → keys.refuses path = false := by
  simp [unknown_eq_filter, mem_keyPlaces_iff]

end Keys
end InstallManifest
