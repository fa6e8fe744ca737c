/-!
Maps from texts, as lists of entries with ascending keys. There is one list for each map, so equal
maps are equal as lists.
-/
namespace InstallManifest

namespace Entries
variable {α : Type}

/-- Whether the keys ascend, and so none is there twice. -/
def Ascending (es : List (String × α)) : Prop := es.Pairwise fun a b => a.1 < b.1

/-- Put a value under a key, in place of the one that was there. -/
def insert (k : String) (x : α) : List (String × α) → List (String × α)
  | [] => [(k, x)]
  | e :: es =>
    if k < e.1 then (k, x) :: e :: es
    else if k = e.1 then (k, x) :: es
    else e :: insert k x es

theorem mem_insert {k : String} {x : α} {es : List (String × α)} {e : String × α}
    (h : e ∈ insert k x es) : e = (k, x) ∨ e ∈ es := by
  induction es with
  | nil => simpa [insert] using h
  | cons f es ih =>
    unfold insert at h
    split at h
    · simpa using h
    · split at h
      · rcases List.mem_cons.1 h with h | h
        · exact .inl h
        · exact .inr (List.mem_cons_of_mem f h)
      · rcases List.mem_cons.1 h with h | h
        · exact .inr (h ▸ List.mem_cons_self)
        · exact (ih h).imp_right (List.mem_cons_of_mem f)

theorem Ascending.insert {es : List (String × α)} (h : Ascending es) (k : String) (x : α) :
    Ascending (Entries.insert k x es) := by
  induction es with
  | nil => simp [Entries.insert, Ascending]
  | cons e es ih =>
    obtain ⟨he, hes⟩ := List.pairwise_cons.1 h
    unfold Entries.insert
    split
    next hk =>
      refine List.pairwise_cons.2 ⟨fun f hf => ?_, h⟩
      rcases List.mem_cons.1 hf with rfl | hf
      · exact hk
      · exact String.lt_trans hk (he f hf)
    next hk =>
      split
      next heq => exact List.pairwise_cons.2 ⟨fun f hf => heq ▸ he f hf, hes⟩
      next hne =>
        refine List.pairwise_cons.2 ⟨fun f hf => ?_, ih hes⟩
        rcases mem_insert hf with rfl | hf
        · have := String.not_lt.1 hk
          grind
        · exact he f hf

/-- A key behind all others comes last. -/
theorem insert_of_forall_lt {k : String} {x : α} {es : List (String × α)}
    (h : ∀ e ∈ es, e.1 < k) : insert k x es = es ++ [(k, x)] := by
  induction es with
  | nil => rfl
  | cons e es ih =>
    have hk : e.1 < k := h e List.mem_cons_self
    have hnot : ¬ k < e.1 := fun hlt => String.lt_irrefl k (String.lt_trans hlt hk)
    have hne : k ≠ e.1 := fun heq => String.lt_irrefl k (heq ▸ hk)
    simp [insert, hnot, hne, ih fun f hf => h f (List.mem_cons_of_mem e hf)]

theorem lookup_insert (k : String) (x : α) (es : List (String × α)) :
    (insert k x es).lookup k = some x := by
  induction es with
  | nil => simp [insert]
  | cons e es ih =>
    obtain ⟨l, y⟩ := e
    unfold insert
    split
    next => simp
    next =>
      split
      next => simp
      next hne =>
        have hne : (k == l) = false := by simpa using hne
        rw [List.lookup_cons, hne, ih]

end Entries

/-- A map from texts. -/
structure SortedMap (α : Type) where
  entries : List (String × α)
  ascending : Entries.Ascending entries

namespace SortedMap
variable {α : Type}

def empty : SortedMap α := ⟨[], List.Pairwise.nil⟩

/-- Put a value under a key, in place of the one that was there. -/
def insert (m : SortedMap α) (k : String) (x : α) : SortedMap α :=
  ⟨Entries.insert k x m.entries, m.ascending.insert k x⟩

/-- The value under a key. -/
def find? (m : SortedMap α) (k : String) : Option α := m.entries.lookup k

/-- The number of keys. -/
def size (m : SortedMap α) : Nat := m.entries.length

/-- The map of a list of entries; the last one of a key counts. -/
def ofList (es : List (String × α)) : SortedMap α :=
  es.foldl (fun m (k, x) => m.insert k x) empty

theorem find?_insert (m : SortedMap α) (k : String) (x : α) : (m.insert k x).find? k = some x :=
  Entries.lookup_insert k x m.entries

@[ext] theorem ext {m n : SortedMap α} (h : m.entries = n.entries) : m = n := by
  cases m; cases n; cases h; rfl

/-- Entries that ascend are put behind each other. -/
theorem entries_foldl_insert {m : SortedMap α} {es : List (String × α)}
    (h : Entries.Ascending (m.entries ++ es)) :
    (es.foldl (fun m (k, x) => m.insert k x) m).entries = m.entries ++ es := by
  induction es generalizing m with
  | nil => simp
  | cons e es ih =>
    have hlast : (m.insert e.1 e.2).entries = m.entries ++ [e] :=
      Entries.insert_of_forall_lt fun f hf =>
        (List.pairwise_append.1 h).2.2 f hf e List.mem_cons_self
    have hnext : (m.insert e.1 e.2).entries ++ es = m.entries ++ e :: es := by
      rw [hlast, List.append_assoc, List.singleton_append]
    rw [List.foldl_cons, ih (hnext ▸ h), hnext]

theorem ofList_entries (m : SortedMap α) : ofList m.entries = m :=
  ext (entries_foldl_insert m.ascending)

instance [DecidableEq α] : DecidableEq (SortedMap α) := fun m n =>
  decidable_of_iff (m.entries = n.entries) ⟨ext, fun h => h ▸ rfl⟩

end SortedMap
end InstallManifest
