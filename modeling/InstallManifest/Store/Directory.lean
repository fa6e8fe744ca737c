import InstallManifest.Store.Path
import InstallManifest.Store.Tree

/-!
A store in a directory. Names are paths below its root; a name that is empty, or has a step to the
top or up, is refused. Writing makes the directories that are missing.
-/
namespace InstallManifest
open Store

structure Directory where
  tree : Tree
  /-- The place where relative paths start. -/
  start : List String
  /-- The path of the root. It need not exist. -/
  root : String

namespace Directory

/-- The directory store of a path, seen from a place in a tree. -/
def ofPath (tree : Tree) (start : List String) (root : String) : Directory :=
  ⟨tree, if Path.isAbsolute root then [] else start, root⟩

/-- Whether a name stays below the root. -/
def isConfined (name : String) : Bool :=
  name ≠ "" && (Path.steps name).all Path.Step.isInward

/-- The path of a file. -/
def path (d : Directory) (name : String) : String := Path.join d.root name

def fetch (d : Directory) (name : String) : Except StoreError File :=
  if ¬ isConfined name then .error (.invalidName name)
  else
    let path := d.path name
    match (do Path.check path; d.tree.read d.start (Path.components path)) with
    | .ok data => .ok ⟨name, data⟩
    | .error .notFound => .error (.notFound name)
    | .error failure => .error (.io path failure)

/-- Make the directories of a path, given by its components. -/
def makeParents (d : Directory) (cs : List String) : Tree × Except IOFailure Unit :=
  match Path.check (Path.ofComponents cs) with
  | .error failure => (d.tree, .error failure)
  | .ok _ => d.tree.makeDirs d.start cs

def write (d : Directory) (f : File) : Directory × Except StoreError Unit :=
  if ¬ isConfined f.name then (d, .error (.invalidName f.name))
  else
    let path := d.path f.name
    let parent := Path.parent (Path.components path)
    let (tree, made) := d.makeParents parent
    match made with
    | .error failure => ({ d with tree }, .error (.io (Path.ofComponents parent) failure))
    | .ok _ =>
      match (do Path.check path; tree.write d.start (Path.components path) f.data) with
      | .error failure => ({ d with tree }, .error (.io path failure))
      | .ok tree => ({ d with tree }, .ok ())

/-- Make a directory and those that it is in. A dot at the end needs a directory in front of it. -/
def makeDirs (d : Directory) (name : String) : Directory × Except IOFailure Unit :=
  let d' := ofPath d.tree d.start (d.path name)
  let cs := Path.components d'.root
  match Path.check d'.root with
  | .error failure => (d, .error failure)
  | .ok _ =>
    if (cs.reverse.dropWhile (· = "")).head? = some "." then
      let (tree, made) := d'.makeParents (Path.parent cs)
      ({ d with tree }, do
        made
        let _ ← tree.walk d'.start cs)
    else
      let (tree, made) := d'.makeParents cs
      ({ d with tree }, made)

end Directory

instance : AssetStore Directory := ⟨Directory.fetch, Directory.write⟩

end InstallManifest
