import InstallManifest.Data.SortedMap
import InstallManifest.Store.Basic

/-!
Trees of directories and files. A place in a tree is a list of names from the top down. A walk
follows the components of a path to a place: an empty component and a dot stay where they are, two
dots go up, and all of these need a directory to do so.
-/
namespace InstallManifest

inductive Tree where
  | file (data : ByteArray)
  | dir (entries : List (String × Tree))

namespace Tree

def emptyDir : Tree := dir []

/-- The names and contents of a directory; a file has none. -/
def children : Tree → List (String × Tree)
  | dir entries => entries
  | file _ => []

/-- What stands at a place. -/
def get? : Tree → List String → Option Tree
  | t, [] => some t
  | t, name :: place => (t.children.lookup name).bind fun child => child.get? place

/-- Put something at a place, in place of what was there. A missing directory on the way is made; a
file on the way stays, and nothing is put below it. -/
def put (t : Tree) (new : Tree) : List String → Tree
  | [] => new
  | name :: place =>
    match t with
    | dir entries =>
      let child := (entries.lookup name).getD emptyDir
      dir (Entries.insert name (child.put new place) entries)
    | file data => file data

/-- The data of a file at a place. -/
def data? (t : Tree) (place : List String) : Option ByteArray :=
  match t.get? place with
  | some (file data) => some data
  | _ => none

def isDir : Tree → Bool
  | dir _ => true
  | file _ => false

mutual

/-- The places of all files below a place, with their data. -/
def files (place : List String) : Tree → List (List String × ByteArray)
  | file data => [(place, data)]
  | dir entries => filesOfEntries place entries

def filesOfEntries (place : List String) :
    List (String × Tree) → List (List String × ByteArray)
  | [] => []
  | (name, t) :: entries => files (place ++ [name]) t ++ filesOfEntries place entries

end

/-! ## Walks -/

/-- The greatest number of bytes in a name. -/
def maxNameSize : Nat := 255

/-- Whether a component of a path stays where it is. -/
def isStay (component : String) : Bool := component = "" || component = "."

/-- The place that a path leads to from another place. -/
def walk (t : Tree) (place : List String) : List String → Except IOFailure (List String)
  | [] => .ok place
  | c :: path =>
    match t.get? place with
    | none => .error .notFound
    | some (file _) => .error .notDirectory
    | some (dir entries) =>
      if isStay c then t.walk place path
      else if c = ".." then t.walk place.dropLast path
      else if maxNameSize < c.utf8ByteSize then .error .nameTooLong
      else if (entries.lookup c).isSome then t.walk (place ++ [c]) path
      else .error .notFound

/-- Make the directories of a path that are missing. If that fails, those made before stay. -/
def makeDirs (t : Tree) (place : List String) : List String → Tree × Except IOFailure Unit
  | [] => (t, .ok ())
  | c :: path =>
    match t.get? place with
    | none => (t, .error .notFound)
    | some (file _) => (t, .error .notDirectory)
    | some (dir entries) =>
      if isStay c then t.makeDirs place path
      else if c = ".." then t.makeDirs place.dropLast path
      else if maxNameSize < c.utf8ByteSize then (t, .error .nameTooLong)
      else
        match entries.lookup c with
        | none => (t.put emptyDir (place ++ [c])).makeDirs (place ++ [c]) path
        | some (dir _) => t.makeDirs (place ++ [c]) path
        | some (file _) => (t, .error (if path = [] then .occupied else .notDirectory))

/-- Read the file that a path leads to. -/
def read (t : Tree) (place path : List String) : Except IOFailure ByteArray := do
  let place ← t.walk place path
  match t.get? place with
  | some (file data) => return data
  | some (dir _) => .error .isDirectory
  | none => .error .notFound

/-- Write a file with a name in the directory that a path leads to. -/
def writeIn (t : Tree) (place path : List String) (name : String) (data : ByteArray) :
    Except IOFailure Tree := do
  let place ← t.walk place path
  match t.get? place with
  | some (dir entries) =>
    if maxNameSize < name.utf8ByteSize then .error .nameTooLong
    else if (entries.lookup name).any isDir then .error .isDirectory
    else return t.put (file data) (place ++ [name])
  | some (file _) => .error .notDirectory
  | none => .error .notFound

/-- Write the file that a path leads to. A path that ends like that of a directory cannot be written
to. -/
def write (t : Tree) (place path : List String) (data : ByteArray) : Except IOFailure Tree :=
  let core := (path.reverse.dropWhile (· = "")).reverse
  match core.getLast? with
  | none => .error .isDirectory
  | some last =>
    if last = "." ∨ last = ".." then do
      let _ ← t.walk place core
      .error .isDirectory
    else if core.length < path.length then .error .isDirectory
    else t.writeIn place core.dropLast last data

end Tree
end InstallManifest
