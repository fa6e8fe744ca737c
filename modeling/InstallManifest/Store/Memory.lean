import InstallManifest.Data.SortedMap
import InstallManifest.Store.Basic

/-!
A store in memory. Every text is a name of its own, and writing always succeeds.
-/
namespace InstallManifest

structure MemoryStore where
  files : SortedMap ByteArray

namespace MemoryStore

def empty : MemoryStore := ⟨.empty⟩

/-- Put data under a name, in place of what was there. -/
def insert (s : MemoryStore) (name : String) (data : ByteArray) : MemoryStore :=
  ⟨s.files.insert name data⟩

/-- The store of a single file. -/
def ofFile (f : File) : MemoryStore := empty.insert f.name f.data

def get? (s : MemoryStore) (name : String) : Option ByteArray := s.files.find? name

/-- The number of files. -/
def size (s : MemoryStore) : Nat := s.files.size

end MemoryStore

instance : AssetStore MemoryStore where
  fetch s name :=
    match s.get? name with
    | some data => .ok ⟨name, data⟩
    | none => .error (.notFound name)
  write s f := (s.insert f.name f.data, .ok ())

end InstallManifest
