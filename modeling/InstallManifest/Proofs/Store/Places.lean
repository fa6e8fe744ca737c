import InstallManifest.Proofs.Store.Frame
import InstallManifest.Proofs.Store.Laws
import InstallManifest.Proofs.Store.Path

/-!
# The files of a store

A store holds files in places, also those that nobody asks it for. Names stand for places, and
different plain names for different ones. A write that fails changes no file; one that succeeds
changes the file in the place of its name and no other, and is not noticed if it is made once more
(`PlacedStore`). In memory every name is a place of its own. The places of a directory are those of
the whole tree, below its root or not.
-/
namespace InstallManifest
open AssetStore Store

/-- Stores of which all files are known. -/
class PlacedStore (σ : Type) [AssetStore σ] extends LawfulStore σ where
  /-- Where files can be. -/
  Place : Type
  /-- The place that a name stands for. -/
  place : σ → String → Place
  /-- The data of the file in a place. -/
  data? : σ → Place → Option ByteArray
  /-- What is fetched under a name is in its place. -/
  data?_of_fetch {s : σ} {name : String} {f : File} :
    fetch s name = .ok f → data? s (place s name) = some f.data
  /-- Different plain names stand for different places. -/
  place_ne (s : σ) {name name' : String} : Path.IsPlain name → Path.IsPlain name' →
    name ≠ name' → place s name ≠ place s name'
  place_write (s : σ) (f : File) (name : String) : place (write s f).1 name = place s name
  data?_of_write_error {s : σ} {f : File} {e : StoreError} :
    (write s f).2 = .error e → ∀ p, data? (write s f).1 p = data? s p
  data?_of_write_ok {s s' : σ} {f : File} : write s f = (s', .ok ()) →
    data? s' (place s f.name) = some f.data ∧ ∀ p ≠ place s f.name, data? s' p = data? s p
  /-- What has been fetched under a name is still fetched, unless it was overwritten. -/
  fetch_of_write {s s' : σ} {f g : File} {name : String} : write s f = (s', .ok ()) →
    place s name ≠ place s f.name → fetch s name = .ok g → fetch s' name = .ok g
  write_again {s s' : σ} {f : File} : write s f = (s', .ok ()) → write s' f = (s', .ok ())

/-! ## Memory -/

namespace MemoryStore
variable {s s' : MemoryStore} {f g : File} {name : String}

theorem fetch_eq_ok_iff {data : ByteArray} :
    fetch s name = .ok ⟨name, data⟩ ↔ s.get? name = some data := by
  cases hget : s.get? name <;> simp [fetch, hget]

theorem get?_insert_of_ne {name' : String} (hne : name ≠ name') (s : MemoryStore)
    (data : ByteArray) : (s.insert name' data).get? name = s.get? name :=
  Entries.lookup_insert_of_ne hne data s.files.entries

theorem insert_insert (s : MemoryStore) (name : String) (data : ByteArray) :
    (s.insert name data).insert name data = s.insert name data :=
  congrArg MemoryStore.mk (SortedMap.ext (Entries.insert_insert name data data s.files.entries))

instance : PlacedStore MemoryStore where
  Place := String
  place _ name := name
  data? s name := s.get? name
  data?_of_fetch {s name f} h := by
    obtain rfl : f.name = name := namesFiles s name f h
    exact fetch_eq_ok_iff.1 h
  place_ne _ _ _ _ _ hne := hne
  place_write _ _ _ := rfl
  data?_of_write_error h := by cases h
  data?_of_write_ok {s s' f} h := by
    obtain rfl : s.insert f.name f.data = s' := congrArg Prod.fst h
    exact ⟨SortedMap.find?_insert _ _ _, fun name hname => get?_insert_of_ne hname s f.data⟩
  fetch_of_write {s s' f g name} h hplace hfetch := by
    obtain rfl : s.insert f.name f.data = s' := congrArg Prod.fst h
    obtain rfl : g.name = name := namesFiles s name g hfetch
    exact fetch_eq_ok_iff.2 ((get?_insert_of_ne hplace s f.data).trans (fetch_eq_ok_iff.1 hfetch))
  write_again {s s' f} h := by
    obtain rfl : s.insert f.name f.data = s' := congrArg Prod.fst h
    exact Prod.ext (s.insert_insert f.name f.data) rfl

end MemoryStore

/-! ## Directories -/

namespace Directory
variable {d d' : Directory} {f g : File} {name : String}

/-- The place in the tree that a name stands for. -/
def place (d : Directory) (name : String) : List String :=
  Tree.resolve d.start (Path.components (d.path name))

/-- The place in the tree that the root stands for. -/
def rootPlace (d : Directory) : List String := Tree.resolve d.start (Path.front d.root)

theorem isConfined_iff : isConfined name = true ↔
    name ≠ "" ∧ Path.isAbsolute name = false ∧ ".." ∉ Path.components name := by
  rw [isConfined, Bool.and_eq_true, decide_eq_true_iff, Path.all_isInward_steps_iff]

theorem isConfined_of_isPlain (hname : Path.IsPlain name) : isConfined name = true := by
  refine isConfined_iff.2 ⟨?_, hname.isAbsolute_eq_false, fun hup => (hname ".." hup).2 rfl⟩
  rintro rfl
  exact absurd hname (by decide)

/-- A name that is not refused stands for a place below that of the root. -/
theorem place_eq_append (hname : isConfined name = true) :
    d.place name = d.rootPlace ++ Tree.names (Path.components name) := by
  obtain ⟨-, habsolute, hup⟩ := isConfined_iff.1 hname
  rw [place, path, Path.components_join d.root habsolute, Tree.resolve_append,
    Tree.resolve_of_not_mem _ hup, rootPlace]

theorem place_of_isPlain (hname : Path.IsPlain name) :
    d.place name = d.rootPlace ++ Path.components name := by
  rw [place_eq_append (isConfined_of_isPlain hname), Tree.names_of_forall_name hname]

theorem place_ne {name' : String} (hname : Path.IsPlain name) (hname' : Path.IsPlain name')
    (hne : name ≠ name') : d.place name ≠ d.place name' := by
  rw [place_of_isPlain hname, place_of_isPlain hname']
  exact fun h => hne (Path.components_injective (List.append_cancel_left h))

theorem makeParents_keeps (d : Directory) (cs : List String) :
    (∀ p, (d.makeParents cs).1.data? p = d.tree.data? p) ∧
      d.tree.Preserves (d.makeParents cs).1 := by
  unfold makeParents
  split
  next => exact ⟨fun _ => rfl, .refl d.tree⟩
  next => exact Tree.makeDirs_keeps d.tree d.start cs

/-- **A write changes the tree and nothing else**. If it fails, it changes no file of the tree, and
no directory is lost. -/
theorem write_cases (d : Directory) (f : File) : ∃ tree, (d.write f).1 = { d with tree := tree } ∧
    ((∃ e, (d.write f).2 = .error e ∧ (∀ p, tree.data? p = d.tree.data? p) ∧
      d.tree.Preserves tree) ∨ (d.write f).2 = .ok ()) := by
  unfold write
  split
  next => exact ⟨d.tree, rfl, .inl ⟨_, rfl, fun _ => rfl, .refl d.tree⟩⟩
  next =>
    have hmade := d.makeParents_keeps (Path.parent (Path.components (d.path f.name)))
    dsimp only
    split
    next => exact ⟨_, rfl, .inl ⟨_, rfl, hmade⟩⟩
    next =>
      split
      next => exact ⟨_, rfl, .inl ⟨_, rfl, hmade⟩⟩
      next => exact ⟨_, rfl, .inr rfl⟩

theorem place_write (d : Directory) (f : File) (name : String) :
    (d.write f).1.place name = d.place name := by
  obtain ⟨tree, htree, -⟩ := d.write_cases f
  rw [htree]
  rfl

theorem keeps_of_write_error {e : StoreError} (h : (d.write f).2 = .error e) :
    (∀ p, (d.write f).1.tree.data? p = d.tree.data? p) ∧
      d.tree.Preserves (d.write f).1.tree := by
  obtain ⟨tree, htree, ⟨_, -, hkeeps⟩ | hok⟩ := d.write_cases f
  · rw [htree]
    exact hkeeps
  · rw [h] at hok
    cases hok

theorem data?_of_write_ok (h : d.write f = (d', .ok ())) :
    d.tree.Preserves d'.tree ∧ d'.tree.data? (d.place f.name) = some f.data ∧
      ∀ p ≠ d.place f.name, d'.tree.data? p = d.tree.data? p := by
  obtain ⟨-, -, tree, tree', hmade, htree, rfl⟩ := write_eq_ok_iff.1 h
  obtain ⟨hfiles, hdirs⟩ := d.makeParents_keeps (Path.parent (Path.components (d.path f.name)))
  rw [hmade] at hfiles hdirs
  obtain ⟨hpreserves, hthere, hothers⟩ := Tree.data?_of_write htree
  exact ⟨hdirs.trans hpreserves, hthere, fun p hp => (hothers p hp).trans (hfiles p)⟩

theorem fetch_eq_ok_iff {data : ByteArray} : d.fetch name = .ok ⟨name, data⟩ ↔
    isConfined name ∧ Path.check (d.path name) = .ok () ∧
      d.tree.read d.start (Path.components (d.path name)) = .ok data := by
  constructor
  · intro h
    unfold fetch at h
    by_cases hconfined : isConfined name = true
    · rw [if_neg (not_not_intro hconfined)] at h
      dsimp only at h
      split at h
      next hread =>
        obtain ⟨⟨⟩, hcheck, hread⟩ := Result.exists_of_bind hread
        obtain rfl := congrArg File.data (Except.ok.inj h)
        exact ⟨hconfined, hcheck, hread⟩
      next => cases h
      next => cases h
    · simp [hconfined] at h
  · rintro ⟨hconfined, hcheck, hread⟩
    exact fetch_of_read hconfined hcheck hread

theorem data?_of_fetch (h : d.fetch name = .ok g) :
    d.tree.data? (d.place name) = some g.data := by
  obtain rfl : g.name = name := namesFiles d name g h
  exact (Tree.read_eq_ok_iff.1 (fetch_eq_ok_iff.1 h).2.2).2

/-- The walk to a file goes through directories, and they are still there. -/
theorem fetch_of_write (h : d.write f = (d', .ok ())) (hplace : d.place name ≠ d.place f.name)
    (hfetch : d.fetch name = .ok g) : d'.fetch name = .ok g := by
  obtain rfl : g.name = name := namesFiles d name g hfetch
  obtain ⟨hconfined, hcheck, hread⟩ := fetch_eq_ok_iff.1 hfetch
  obtain ⟨hwalk, hdata⟩ := Tree.read_eq_ok_iff.1 hread
  obtain ⟨hpreserves, -, hothers⟩ := data?_of_write_ok h
  obtain ⟨tree, htree, -⟩ := d.write_cases f
  obtain rfl : { d with tree := tree } = d' := by rw [← htree, h]
  refine fetch_eq_ok_iff.2 ⟨hconfined, hcheck, Tree.read_eq_ok_iff.2 ⟨?_, ?_⟩⟩
  · exact Tree.walk_of_preserves hpreserves hwalk
  · exact (hothers _ hplace).trans hdata

theorem write_again (h : d.write f = (d', .ok ())) : d'.write f = (d', .ok ()) := by
  obtain ⟨hconfined, hcheck, tree, tree', hmade, htree, rfl⟩ := write_eq_ok_iff.1 h
  have hparents : makeParents { d with tree := tree' }
      (Path.parent (Path.components (d.path f.name))) = (tree', .ok ()) := by
    unfold makeParents at hmade ⊢
    split at hmade
    next => cases hmade
    next => exact Tree.makeDirs_again hmade (Tree.data?_of_write htree).1
  exact write_eq_ok_iff.2 ⟨hconfined, hcheck, tree', tree', hparents, Tree.write_again htree, rfl⟩

end Directory

instance : PlacedStore Directory where
  Place := List String
  place := Directory.place
  data? d p := d.tree.data? p
  data?_of_fetch := Directory.data?_of_fetch
  place_ne _ _ _ := Directory.place_ne
  place_write := Directory.place_write
  data?_of_write_error h := (Directory.keeps_of_write_error h).1
  data?_of_write_ok h := (Directory.data?_of_write_ok h).2
  fetch_of_write := Directory.fetch_of_write
  write_again := Directory.write_again

end InstallManifest
