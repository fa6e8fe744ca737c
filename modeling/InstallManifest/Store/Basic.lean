/-!
Named files, and stores to keep them in. A store answers a fetch with the file that was last written
under a name, or with the reason why there is none; writing gives a new store, also if it fails.
-/
namespace InstallManifest

/-- A file of a store. Its name is a path relative to the store, with slashes. -/
structure File where
  name : String
  data : ByteArray

instance : DecidableEq File := fun f g =>
  decidable_of_iff (f.name = g.name ∧ f.data.data.toList = g.data.data.toList) (by
    obtain ⟨fn, ⟨⟨fd⟩⟩⟩ := f
    obtain ⟨gn, ⟨⟨gd⟩⟩⟩ := g
    simp)

/-- Why an operation on files failed. -/
inductive IOFailure where
  | notFound
  | occupied
  | notDirectory
  | isDirectory
  | nameTooLong
  /-- The name has a character that ends file names. -/
  | nulInName
  /-- Any other failure, in the words of the system. -/
  | other (text : String)
deriving DecidableEq, Repr

def IOFailure.message : IOFailure → String
  | notFound => "No such file or directory (os error 2)"
  | occupied => "File exists (os error 17)"
  | notDirectory => "Not a directory (os error 20)"
  | isDirectory => "Is a directory (os error 21)"
  | nameTooLong => "File name too long (os error 36)"
  | nulInName => "file name contained an unexpected NUL byte"
  | other text => text

inductive StoreError where
  | notFound (name : String)
  /-- The name does not denote a place inside the store. -/
  | invalidName (name : String)
  /-- Reading or writing at a path failed. -/
  | io (path : String) (failure : IOFailure)
deriving DecidableEq, Repr

namespace StoreError

def isNotFound : StoreError → Bool
  | notFound _ => true
  | _ => false

def message : StoreError → String
  | notFound name => "record not found: " ++ name
  | invalidName name => "invalid record name: " ++ name
  | io path failure => "I/O error on " ++ path ++ ": " ++ failure.message

/-- The error and what it was caused by, as texts. -/
def causes (e : StoreError) : List String :=
  match e with
  | io _ failure => [e.message, failure.message]
  | _ => [e.message]

end StoreError

class AssetStore (σ : Type) where
  fetch : σ → String → Except StoreError File
  write : σ → File → σ × Except StoreError Unit

end InstallManifest
