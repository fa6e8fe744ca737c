import InstallManifest.Proofs.Store.Descent
import InstallManifest.Proofs.Store.Places

/-!
# What a directory does not have

A directory reports a name as missing exactly if the way to it ends at a name that is missing: on
the way to the root, or below the root (`Directory.fetch_eq_notFound_iff`). This is less than that
there is nothing in its place. Where a file stands on the way, nothing can be below it, and that is
a failure to read and not a missing file.
-/
namespace InstallManifest
open Store

namespace Directory
variable {d : Directory} {name : String}

/-- Whether a file system takes the path of a name, and every component of the name. -/
def IsWithinLimits (d : Directory) (name : String) : Prop :=
  Path.check (d.path name) = .ok () ∧
    ∀ c ∈ Path.components name, ¬ Tree.maxNameSize < c.utf8ByteSize

instance (d : Directory) (name : String) : Decidable (d.IsWithinLimits name) :=
  inferInstanceAs (Decidable (_ ∧ _))

/-- Whether nothing is in the place of a name, and nothing but directories on the way to it; or the
root itself cannot be reached because a directory is missing. -/
def IsAbsent (d : Directory) (name : String) : Prop :=
  d.tree.walk d.start (Path.front d.root) = .error .notFound ∨
    d.tree.walk d.start (Path.front d.root) = .ok d.rootPlace ∧
      d.tree.IsMissing d.rootPlace (Tree.names (Path.components name))

theorem components_path (hname : isConfined name = true) :
    Path.components (d.path name) = Path.front d.root ++ Path.components name :=
  Path.components_join d.root (isConfined_iff.1 hname).2.1

theorem fetch_eq_notFound_iff_read (hname : isConfined name = true)
    (hcheck : Path.check (d.path name) = .ok ()) : d.fetch name = .error (.notFound name) ↔
      d.tree.read d.start (Path.components (d.path name)) = .error .notFound := by
  cases hread : d.tree.read d.start (Path.components (d.path name)) with
  | error failure => cases failure <;> simp [fetch, hname, hcheck, hread, bind, Except.bind]
  | ok data => simp [fetch, hname, hcheck, hread, bind, Except.bind]

/-- **A name is reported as missing** exactly if it is absent. -/
theorem fetch_eq_notFound_iff (hname : isConfined name = true) (hlimits : d.IsWithinLimits name) :
    d.fetch name = .error (.notFound name) ↔ d.IsAbsent name := by
  obtain ⟨hcheck, hsize⟩ := hlimits
  have hup : ".." ∉ Path.components name := (isConfined_iff.1 hname).2.2
  rw [fetch_eq_notFound_iff_read hname hcheck, components_path hname, Tree.read_append, IsAbsent]
  cases hwalk : d.tree.walk d.start (Path.front d.root) with
  | error failure => simp [bind, Except.bind]
  | ok target =>
    obtain rfl : target = d.rootPlace := Tree.walk_eq_resolve hwalk
    have hread : d.tree.read d.rootPlace (Path.components name) = .error .notFound ↔
        d.tree.IsMissing d.rootPlace (Tree.names (Path.components name)) :=
      Tree.read_eq_notFound_iff hup hsize
    simpa [bind, Except.bind] using hread

/-- Below a file, a name is not missing. It cannot be read, which is reported as a failure. -/
theorem fetch_of_file_on_way (hname : isConfined name = true) (hlimits : d.IsWithinLimits name)
    (hroot : d.tree.walk d.start (Path.front d.root) = .ok d.rootPlace) {way : List String}
    {data : ByteArray} (hway : way <+: Tree.names (Path.components name))
    (hne : way ≠ Tree.names (Path.components name))
    (hfile : d.tree.data? (d.rootPlace ++ way) = some data) :
    d.fetch name = .error (.io (d.path name) .notDirectory) := by
  obtain ⟨hcheck, hsize⟩ := hlimits
  have hread : d.tree.read d.start (Path.components (d.path name)) = .error .notDirectory := by
    rw [components_path hname, Tree.read_append, hroot]
    exact Tree.read_of_file_on_way (isConfined_iff.1 hname).2.2 hsize hway hne hfile
  simp [fetch, hname, hcheck, hread, bind, Except.bind]

/-- A directory reports no other name as missing than the one that it was asked for. -/
theorem eq_notFound_of_isNotFound {e : StoreError} (hfetch : d.fetch name = .error e)
    (he : e.isNotFound = true) : e = .notFound name := by
  unfold fetch at hfetch
  split at hfetch
  · obtain rfl := Except.error.inj hfetch
    cases he
  · dsimp only at hfetch
    split at hfetch
    · cases hfetch
    · exact (Except.error.inj hfetch).symm
    · obtain rfl := Except.error.inj hfetch
      cases he

end Directory
end InstallManifest
