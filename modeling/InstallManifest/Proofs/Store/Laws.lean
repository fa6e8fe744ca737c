import InstallManifest.Proofs.Store.Tree
import InstallManifest.Store.Directory
import InstallManifest.Store.Memory

/-!
# Laws of stores

What a caller may expect of a store: a fetched file has the name that was asked for
(`AssetStore.NamesFiles`), and a file that was written is the next one to be fetched under its name
(`AssetStore.Keeps`). Memory and directories keep both laws (`LawfulStore`).
-/
namespace InstallManifest
open Store

namespace AssetStore
variable {σ : Type} [AssetStore σ]

/-- Whether every file of a store is fetched under its own name. -/
def NamesFiles (s : σ) : Prop := ∀ name f, fetch s name = .ok f → f.name = name

/-- Whether a store gives back what has just been written to it. -/
def Keeps (s : σ) : Prop := ∀ f s', write s f = (s', .ok ()) → fetch s' f.name = .ok f

end AssetStore

namespace MemoryStore

theorem namesFiles (s : MemoryStore) : AssetStore.NamesFiles s := by
  intro name f hf
  cases hget : s.get? name with
  | none => simp [AssetStore.fetch, hget] at hf
  | some data =>
    obtain rfl : ⟨name, data⟩ = f := by simpa [AssetStore.fetch, hget] using hf
    rfl

theorem keeps (s : MemoryStore) : AssetStore.Keeps s := by
  intro f s' hwrite
  obtain rfl : s.insert f.name f.data = s' := congrArg Prod.fst hwrite
  have hget : (s.insert f.name f.data).get? f.name = some f.data := by
    simp [get?, insert, SortedMap.find?_insert]
  simp [AssetStore.fetch, hget]

theorem write_eq (s : MemoryStore) (f : File) :
    AssetStore.write s f = (s.insert f.name f.data, .ok ()) := rfl

theorem fetch_ofFile (f : File) : AssetStore.fetch (ofFile f) f.name = .ok f :=
  keeps empty f (ofFile f) rfl

end MemoryStore

theorem Directory.namesFiles (d : Directory) : AssetStore.NamesFiles d := by
  intro name f hf
  have hfetch : d.fetch name = .ok f := hf
  unfold Directory.fetch at hfetch
  split at hfetch
  · cases hfetch
  · dsimp only at hfetch
    split at hfetch
    · obtain rfl := Except.ok.inj hfetch
      rfl
    · cases hfetch
    · cases hfetch

namespace Directory
variable {d d' : Directory} {f : File}

/-- A file is written to the tree that its missing directories have been made in. -/
theorem write_eq_ok_iff : d.write f = (d', .ok ()) ↔
    isConfined f.name ∧ Path.check (d.path f.name) = .ok () ∧ ∃ tree tree' : Tree,
      d.makeParents (Path.parent (Path.components (d.path f.name))) = (tree, .ok ()) ∧
      tree.write d.start (Path.components (d.path f.name)) f.data = .ok tree' ∧
        d' = { d with tree := tree' } := by
  by_cases hconfined : isConfined f.name = true
  · obtain ⟨⟨tree, made⟩, hmade⟩ :
        ∃ made, d.makeParents (Path.parent (Path.components (d.path f.name))) = made := ⟨_, rfl⟩
    simp only [write, hconfined, not_true, if_false, hmade]
    cases made with
    | error failure => simp
    | ok _ =>
      cases hcheck : Path.check (d.path f.name) with
      | error failure => simp [bind, Except.bind]
      | ok _ =>
        cases htree : tree.write d.start (Path.components (d.path f.name)) f.data with
        | error failure => simp [bind, Except.bind, htree]
        | ok tree' => simp [bind, Except.bind, htree, eq_comm]
  · simp [write, hconfined]

theorem fetch_of_read {name : String} {data : ByteArray} (hconfined : isConfined name)
    (hcheck : Path.check (d.path name) = .ok ())
    (hread : d.tree.read d.start (Path.components (d.path name)) = .ok data) :
    d.fetch name = .ok ⟨name, data⟩ := by
  unfold fetch
  simp only [hconfined, not_true, if_false, hcheck, bind, Except.bind, hread]

/-- **A directory gives back what was written to it**, because the path of a file leads to the same
place before and after the file is there. -/
theorem keeps (d : Directory) : AssetStore.Keeps d := by
  intro f d' hwrite
  obtain ⟨hconfined, hcheck, tree, tree', -, htree, rfl⟩ := write_eq_ok_iff.1 hwrite
  exact fetch_of_read hconfined hcheck (Tree.read_of_write htree)

end Directory

/-- Stores that keep both laws, whatever they hold. -/
class LawfulStore (σ : Type) [AssetStore σ] : Prop where
  namesFiles (s : σ) : AssetStore.NamesFiles s
  keeps (s : σ) : AssetStore.Keeps s

instance : LawfulStore MemoryStore := ⟨MemoryStore.namesFiles, MemoryStore.keeps⟩

instance : LawfulStore Directory := ⟨Directory.namesFiles, Directory.keeps⟩

end InstallManifest
