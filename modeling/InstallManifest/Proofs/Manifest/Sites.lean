import InstallManifest.Proofs.Manifest.Report
import InstallManifest.Proofs.Yaml.Written

/-!
# Where the keys of a document stand

The path of a key does not always tell it from the others: a mapping may have two keys of one text,
if one of them carries a tag. Its position does: the indices of the entries and of the items that
lead to it. Positions are ordered as lists are, and a key stands in front of all keys below it. In
this order the sites of the keys are listed, each of them once (`Value.pairwise_keySites`). Where no
key carries a tag, the path of a key is enough, because no mapping has a key twice
(`Value.KeyAt.position_unique`).
-/
namespace InstallManifest.Yaml.Value

/-- Whether a key stands at a position of a value, and which steps lead to it, its own included.
Values under a tag are not entered. -/
inductive KeyAt : Value → List Nat → Path → Value → Prop
  | here {es : List (Value × Value)} {i : Nat} {k v : Value} (hmem : es[i]? = some (k, v)) :
      KeyAt (map es) [i] [Keys.step k] k
  | entry {es : List (Value × Value)} {i : Nat} {k v key : Value} {position : List Nat}
      {path : Path} (hmem : es[i]? = some (k, v)) (hkey : v.KeyAt position path key) :
      KeyAt (map es) (i :: position) (Keys.step k :: path) key
  | item {vs : List Value} {i : Nat} {v key : Value} {position : List Nat} {path : Path}
      (hmem : vs[i]? = some v) (hkey : v.KeyAt position path key) :
      KeyAt (seq vs) (i :: position) (.item i :: path) key

variable {es : List (Value × Value)} {vs : List Value} {v key : Value} {position : List Nat}
  {path : Path}

namespace KeyAt

theorem position_ne_nil (h : v.KeyAt position path key) : position ≠ [] := by
  cases h <;> simp

theorem path_ne_nil (h : v.KeyAt position path key) : path ≠ [] := by
  cases h <;> simp

theorem map_iff : (map es).KeyAt position path key ↔ ∃ i k v, es[i]? = some (k, v) ∧
    (position = [i] ∧ path = [Keys.step k] ∧ key = k ∨
      ∃ position' path', position = i :: position' ∧ path = Keys.step k :: path' ∧
        v.KeyAt position' path' key) := by
  constructor
  · intro h
    cases h with
    | here hmem => exact ⟨_, _, _, hmem, .inl ⟨rfl, rfl, rfl⟩⟩
    | entry hmem hkey => exact ⟨_, _, _, hmem, .inr ⟨_, _, rfl, rfl, hkey⟩⟩
  · rintro ⟨i, k, v, hmem, ⟨rfl, rfl, rfl⟩ | ⟨position', path', rfl, rfl, hkey⟩⟩
    · exact .here hmem
    · exact .entry hmem hkey

theorem seq_iff : (seq vs).KeyAt position path key ↔ ∃ i v position' path', vs[i]? = some v ∧
    position = i :: position' ∧ path = .item i :: path' ∧ v.KeyAt position' path' key := by
  constructor
  · intro h
    cases h with
    | item hmem hkey => exact ⟨_, _, _, _, hmem, rfl, rfl, hkey⟩
  · rintro ⟨i, v, position', path', hmem, rfl, rfl, hkey⟩
    exact .item hmem hkey

end KeyAt

/-! ## The list of all sites -/

/-- A site, seen from the collection around it. -/
def within (index : Nat) (step : Step) (site : List Nat × Path) : List Nat × Path :=
  (index :: site.1, step :: site.2)

mutual

/-- The positions and paths of the keys of a value, in document order. -/
def keySites : Value → List (List Nat × Path)
  | map es => keySitesOfEntries 0 es
  | seq vs => keySitesOfItems 0 vs
  | _ => []

def keySitesOfEntries (index : Nat) : List (Value × Value) → List (List Nat × Path)
  | [] => []
  | (k, v) :: es =>
    ([index], [Keys.step k]) ::
      (v.keySites.map (within index (Keys.step k)) ++ keySitesOfEntries (index + 1) es)

def keySitesOfItems (index : Nat) : List Value → List (List Nat × Path)
  | [] => []
  | v :: vs => v.keySites.map (within index (.item index)) ++ keySitesOfItems (index + 1) vs

end

mutual

/-- The sites are those of the places that the report is about. -/
theorem map_keySites (v : Value) : v.keySites.map (·.2) = v.keyPlaces false := by
  match v with
  | map es => rw [keySites, keyPlaces, map_keySitesOfEntries 0 es]
  | seq vs => rw [keySites, keyPlaces, map_keySitesOfItems 0 vs]
  | null | Value.bool _ | number _ | string _ | tagged _ _ => rfl

theorem map_keySitesOfEntries (index : Nat) (es : List (Value × Value)) :
    (keySitesOfEntries index es).map (·.2) = keyPlacesOfEntries false es := by
  match es with
  | [] => rfl
  | (k, v) :: es =>
    rw [keySitesOfEntries, keyPlacesOfEntries, ← map_keySites v,
      ← map_keySitesOfEntries (index + 1) es]
    simp [within, Function.comp_def]

theorem map_keySitesOfItems (index : Nat) (vs : List Value) :
    (keySitesOfItems index vs).map (·.2) = keyPlacesOfItems false index vs := by
  match vs with
  | [] => rfl
  | v :: vs =>
    rw [keySitesOfItems, keyPlacesOfItems, ← map_keySites v,
      ← map_keySitesOfItems (index + 1) vs]
    simp [within, Function.comp_def]

end

mutual

/-- **Every key is listed**, and nothing else is. -/
theorem mem_keySites_iff {position : List Nat} {path : Path} (v : Value) :
    (position, path) ∈ v.keySites ↔ ∃ key, v.KeyAt position path key := by
  match v with
  | map es =>
    rw [keySites, mem_keySitesOfEntries_iff 0 es]
    simp only [Nat.zero_add, KeyAt.map_iff]
    constructor
    · rintro ⟨i, k, v, hmem, ⟨rfl, rfl⟩ | ⟨position', path', rfl, rfl, key, hkey⟩⟩
      · exact ⟨k, i, k, v, hmem, .inl ⟨rfl, rfl, rfl⟩⟩
      · exact ⟨key, i, k, v, hmem, .inr ⟨position', path', rfl, rfl, hkey⟩⟩
    · rintro ⟨key, i, k, v, hmem, ⟨rfl, rfl, -⟩ | ⟨position', path', rfl, rfl, hkey⟩⟩
      · exact ⟨i, k, v, hmem, .inl ⟨rfl, rfl⟩⟩
      · exact ⟨i, k, v, hmem, .inr ⟨position', path', rfl, rfl, key, hkey⟩⟩
  | seq vs =>
    rw [keySites, mem_keySitesOfItems_iff 0 vs]
    simp only [Nat.zero_add, KeyAt.seq_iff]
    constructor
    · rintro ⟨i, v, position', path', hmem, rfl, rfl, key, hkey⟩
      exact ⟨key, i, v, position', path', hmem, rfl, rfl, hkey⟩
    · rintro ⟨key, i, v, position', path', hmem, rfl, rfl, hkey⟩
      exact ⟨i, v, position', path', hmem, rfl, rfl, key, hkey⟩
  | null | Value.bool _ | number _ | string _ | tagged _ _ =>
    refine iff_of_false (by simp [keySites]) ?_
    rintro ⟨key, ⟨⟩⟩

theorem mem_keySitesOfEntries_iff {position : List Nat} {path : Path} (index : Nat)
    (es : List (Value × Value)) :
    (position, path) ∈ keySitesOfEntries index es ↔ ∃ i k v, es[i]? = some (k, v) ∧
      (position = [index + i] ∧ path = [Keys.step k] ∨
        ∃ position' path', position = (index + i) :: position' ∧ path = Keys.step k :: path' ∧
          ∃ key, v.KeyAt position' path' key) := by
  match es with
  | [] => simp [keySitesOfEntries]
  | (k, v) :: es =>
    rw [keySitesOfEntries, List.mem_cons, List.mem_append, List.mem_map,
      mem_keySitesOfEntries_iff (index + 1) es]
    constructor
    · rintro (hhere | ⟨⟨position', path'⟩, hsite, hwithin⟩ | ⟨i, l, w, hmem, hrest⟩)
      · obtain ⟨rfl, rfl⟩ := Prod.mk.inj hhere
        exact ⟨0, k, v, rfl, .inl ⟨rfl, rfl⟩⟩
      · obtain ⟨rfl, rfl⟩ := Prod.mk.inj hwithin
        exact ⟨0, k, v, rfl, .inr ⟨_, _, rfl, rfl, (mem_keySites_iff v).1 hsite⟩⟩
      · rw [Nat.add_right_comm, Nat.add_assoc] at hrest
        exact ⟨i + 1, l, w, hmem, hrest⟩
    · rintro ⟨i, l, w, hmem, hrest⟩
      cases i with
      | zero =>
        obtain ⟨rfl, rfl⟩ := Prod.mk.inj (Option.some.inj hmem)
        obtain ⟨rfl, rfl⟩ | ⟨position', path', rfl, rfl, hkey⟩ := hrest
        · exact .inl rfl
        · exact .inr (.inl ⟨_, (mem_keySites_iff v).2 hkey, rfl⟩)
      | succ i =>
        rw [← Nat.add_assoc, Nat.add_right_comm] at hrest
        exact .inr (.inr ⟨i, l, w, hmem, hrest⟩)

theorem mem_keySitesOfItems_iff {position : List Nat} {path : Path} (index : Nat)
    (vs : List Value) :
    (position, path) ∈ keySitesOfItems index vs ↔ ∃ i v position' path', vs[i]? = some v ∧
      position = (index + i) :: position' ∧ path = .item (index + i) :: path' ∧
        ∃ key, v.KeyAt position' path' key := by
  match vs with
  | [] => simp [keySitesOfItems]
  | v :: vs =>
    rw [keySitesOfItems, List.mem_append, List.mem_map, mem_keySitesOfItems_iff (index + 1) vs]
    constructor
    · rintro (⟨⟨position', path'⟩, hsite, hwithin⟩ | ⟨i, w, position', path', hmem, hrest⟩)
      · obtain ⟨rfl, rfl⟩ := Prod.mk.inj hwithin
        exact ⟨0, v, _, _, rfl, rfl, rfl, (mem_keySites_iff v).1 hsite⟩
      · rw [Nat.add_right_comm, Nat.add_assoc] at hrest
        exact ⟨i + 1, w, position', path', hmem, hrest⟩
    · rintro ⟨i, w, position', path', hmem, hrest⟩
      cases i with
      | zero =>
        obtain rfl : v = w := Option.some.inj hmem
        obtain ⟨rfl, rfl, hkey⟩ := hrest
        exact .inl ⟨_, (mem_keySites_iff v).2 hkey, rfl⟩
      | succ i =>
        rw [← Nat.add_assoc, Nat.add_right_comm] at hrest
        exact .inr ⟨i, w, position', path', hmem, hrest⟩

end

/-! ## Document order -/

/-- Sites within one part of a collection, and then sites within later parts. -/
theorem pairwise_within_append {index : Nat} {step : Step} {sites rest : List (List Nat × Path)}
    (hsites : sites.Pairwise (·.1 < ·.1)) (hrest : rest.Pairwise (·.1 < ·.1))
    (hlater : ∀ site ∈ rest, ∃ i position, site.1 = i :: position ∧ index < i) :
    (sites.map (within index step) ++ rest).Pairwise (·.1 < ·.1) := by
  refine List.pairwise_append.2 ⟨?_, hrest, ?_⟩
  · rw [List.pairwise_map]
    exact hsites.imp fun h => List.cons_lt_cons_iff.2 (.inr ⟨rfl, h⟩)
  · intro site hsite later hmem
    obtain ⟨site, -, rfl⟩ := List.mem_map.1 hsite
    obtain ⟨i, position, hposition, hi⟩ := hlater later hmem
    rw [hposition]
    exact List.cons_lt_cons_iff.2 (.inl hi)

theorem exists_of_mem_entries {index : Nat} {site : List Nat × Path}
    (h : site ∈ keySitesOfEntries (index + 1) es) :
    ∃ i position, site.1 = i :: position ∧ index < i := by
  obtain ⟨i, k, v, -, ⟨hposition, -⟩ | ⟨position', -, hposition, -⟩⟩ :=
    (mem_keySitesOfEntries_iff (index + 1) es).1 h
  · exact ⟨_, _, hposition, by omega⟩
  · exact ⟨_, _, hposition, by omega⟩

theorem exists_of_mem_items {index : Nat} {site : List Nat × Path}
    (h : site ∈ keySitesOfItems (index + 1) vs) :
    ∃ i position, site.1 = i :: position ∧ index < i := by
  obtain ⟨i, v, position', -, -, hposition, -⟩ := (mem_keySitesOfItems_iff (index + 1) vs).1 h
  exact ⟨_, _, hposition, by omega⟩

mutual

/-- **The sites are listed in document order**, and so each of them once. -/
theorem pairwise_keySites (v : Value) : v.keySites.Pairwise (·.1 < ·.1) := by
  match v with
  | map es => exact pairwise_keySitesOfEntries 0 es
  | seq vs => exact pairwise_keySitesOfItems 0 vs
  | null | Value.bool _ | number _ | string _ | tagged _ _ => exact .nil

theorem pairwise_keySitesOfEntries (index : Nat) (es : List (Value × Value)) :
    (keySitesOfEntries index es).Pairwise (·.1 < ·.1) := by
  match es with
  | [] => exact .nil
  | (k, v) :: es =>
    have hlater : ∀ site ∈ keySitesOfEntries (index + 1) es,
        ∃ i position, site.1 = i :: position ∧ index < i :=
      fun site hsite => exists_of_mem_entries hsite
    rw [keySitesOfEntries, List.pairwise_cons]
    refine ⟨fun site hsite => ?_, pairwise_within_append (pairwise_keySites v)
      (pairwise_keySitesOfEntries (index + 1) es) hlater⟩
    rcases List.mem_append.1 hsite with hsite | hsite
    · -- A key stands in front of the keys below it.
      obtain ⟨⟨position', path'⟩, hmem, rfl⟩ := List.mem_map.1 hsite
      obtain ⟨key, hkey⟩ := (mem_keySites_iff v).1 hmem
      obtain ⟨i, position, rfl⟩ := List.exists_cons_of_ne_nil hkey.position_ne_nil
      exact List.cons_lt_cons_iff.2 (.inr ⟨rfl, List.nil_lt_cons i position⟩)
    · obtain ⟨i, position, hposition, hi⟩ := hlater site hsite
      rw [hposition]
      exact List.cons_lt_cons_iff.2 (.inl hi)

theorem pairwise_keySitesOfItems (index : Nat) (vs : List Value) :
    (keySitesOfItems index vs).Pairwise (·.1 < ·.1) := by
  match vs with
  | [] => exact .nil
  | v :: vs =>
    rw [keySitesOfItems]
    exact pairwise_within_append (pairwise_keySites v) (pairwise_keySitesOfItems (index + 1) vs)
      fun site => exists_of_mem_items

end

/-! ## Keys without tags -/

/-- No two keys of a mapping are the same. -/
theorem pairwise_of_entriesHaveDistinctKeys {seen : List Value}
    (h : entriesHaveDistinctKeys seen es) :
    (∀ e ∈ es, ∀ k ∈ seen, e.1.same k = false) ∧ es.Pairwise fun e f => f.1.same e.1 = false := by
  induction es generalizing seen with
  | nil => exact ⟨by simp, .nil⟩
  | cons e es ih =>
    simp only [entriesHaveDistinctKeys, Bool.and_eq_true, Option.isNone_iff_eq_none,
      List.find?_eq_none, Bool.not_eq_true] at h
    obtain ⟨hseen, hpairwise⟩ := ih h.2
    refine ⟨?_, List.pairwise_cons.2 ⟨fun f hf => hseen f hf e.1 List.mem_cons_self, hpairwise⟩⟩
    rw [List.forall_mem_cons]
    exact ⟨h.1.1.2, fun f hf k hk => hseen f hf k (List.mem_cons_of_mem e.1 hk)⟩

/-- A text is at most once a key. -/
theorem index_unique {s : String} {i j : Nat} {w : Value} (h : (map es).hasDistinctKeys)
    (hi : es[i]? = some (string s, v)) (hj : es[j]? = some (string s, w)) : i = j := by
  have hpairwise := List.pairwise_iff_getElem.1 (pairwise_of_entriesHaveDistinctKeys h).2
  obtain ⟨hilength, hi⟩ := List.getElem?_eq_some_iff.1 hi
  obtain ⟨hjlength, hj⟩ := List.getElem?_eq_some_iff.1 hj
  have hsame : (string s).same (string s) = true := by simp [same]
  rcases Nat.lt_trichotomy i j with hlt | heq | hlt
  · have hdiffer := hpairwise i j hilength hjlength hlt
    rw [hi, hj, hsame] at hdiffer
    cases hdiffer
  · exact heq
  · have hdiffer := hpairwise j i hjlength hilength hlt
    rw [hi, hj, hsame] at hdiffer
    cases hdiffer

/-- A key without a tag whose step is a name is the text of that name. -/
theorem eq_string_of_step {k : Value} {name : String} (htag : k.untag = k)
    (h : Keys.step k = .key name) : k = string name := by
  rw [Keys.step, text?, htag] at h
  cases k <;> simp_all

/-- Two entries of a mapping on the same path are one: their keys are the same text. -/
theorem index_unique_of_step {i j : Nat} {k l w : Value} (h : (map es).hasDistinctKeys)
    (hk : k.untag = k) (hl : l.untag = l) (hi : es[i]? = some (k, v)) (hj : es[j]? = some (l, w))
    (hstep : Keys.step k = Keys.step l) (hnamed : Keys.step k ≠ .unnamed) : i = j := by
  obtain ⟨name, hname⟩ : ∃ name, Keys.step k = .key name := by
    unfold Keys.step at hnamed ⊢
    cases htext : k.text? <;> simp_all
  have hleft : k = string name := eq_string_of_step hk hname
  have hright : l = string name := eq_string_of_step hl (hstep ▸ hname)
  exact index_unique h (hleft ▸ hi) (hright ▸ hj)

/-- **The path of a key tells where it stands**, if no key carries a tag and all keys on the path are
texts. -/
theorem KeyAt.position_unique {position' : List Nat} {key' : Value}
    (h : v.KeyAt position path key) (h' : v.KeyAt position' path key')
    (hdistinct : v.hasDistinctKeys)
    (htags : ∀ position path key, v.KeyAt position path key → key.untag = key)
    (hnamed : .unnamed ∉ path) : position = position' := by
  induction h generalizing position' key' with
  | @here es i k v hmem =>
    obtain ⟨j, l, w, hmem', ⟨rfl, hpath, -⟩ | ⟨q, below, -, hpath, hkey⟩⟩ := map_iff.1 h'
    · obtain ⟨hstep, -⟩ := List.cons.inj hpath
      rw [index_unique_of_step hdistinct (htags _ _ _ (.here hmem)) (htags _ _ _ (.here hmem'))
        hmem hmem' hstep fun h => hnamed (by simp [h])]
    · exact absurd (List.cons.inj hpath).2.symm hkey.path_ne_nil
  | @entry es i k v key position path hmem hkey ih =>
    obtain ⟨j, l, w, hmem', ⟨-, hpath, -⟩ | ⟨q, below, rfl, hpath, hkey'⟩⟩ := map_iff.1 h'
    · exact absurd (List.cons.inj hpath).2 hkey.path_ne_nil
    · obtain ⟨hstep, rfl⟩ := List.cons.inj hpath
      obtain rfl := index_unique_of_step hdistinct (htags _ _ _ (.here hmem))
        (htags _ _ _ (.here hmem')) hmem hmem' hstep fun h => hnamed (by simp [h])
      obtain ⟨-, rfl⟩ := Prod.mk.inj (Option.some.inj (hmem.symm.trans hmem'))
      have hvalue : v.hasDistinctKeys :=
        hasDistinctKeys_of_entries hdistinct (k, v) (List.mem_of_getElem? hmem)
      rw [ih hkey' hvalue (fun _ _ _ h => htags _ _ _ (.entry hmem h))
        fun h => hnamed (List.mem_cons_of_mem _ h)]
  | @item vs i v key position path hmem hkey ih =>
    obtain ⟨j, w, q, below, hmem', rfl, hpath, hkey'⟩ := seq_iff.1 h'
    obtain ⟨hstep, rfl⟩ := List.cons.inj hpath
    obtain rfl := Step.item.inj hstep
    obtain rfl := Option.some.inj (hmem.symm.trans hmem')
    have hvalue : v.hasDistinctKeys :=
      itemsHaveDistinctKeys_iff.1 hdistinct v (List.mem_of_getElem? hmem)
    rw [ih hkey' hvalue (fun _ _ _ h => htags _ _ _ (.item hmem h))
      fun h => hnamed (List.mem_cons_of_mem _ h)]

end InstallManifest.Yaml.Value
