import InstallManifest.Store.Basic
import InstallManifest.Store.Tree

/-!
Paths as texts. Slashes separate the components; empty components and dots at the end of a path do
not count when its parent is asked for. Read step by step, a path has a step for each component that
leads somewhere.
-/
namespace InstallManifest.Store.Path

/-- The parts of a list of characters between its slashes. -/
def splitSlashes : List Char → List (List Char)
  | [] => [[]]
  | c :: cs =>
    if c = '/' then [] :: splitSlashes cs
    else
      match splitSlashes cs with
      | [] => [[c]]
      | w :: ws => (c :: w) :: ws

/-- The components of a path. -/
def components (path : String) : List String := (splitSlashes path.toList).map String.ofList

/-- The path of some components. -/
def ofComponents (cs : List String) : String := String.intercalate "/" cs

def isAbsolute (path : String) : Bool := path.toList.head? == some '/'

/-- What a path asks for. -/
inductive Step where
  /-- To start at the top of the tree. -/
  | top
  /-- To start where one is, said by a dot. -/
  | here
  | up
  | down (name : String)
deriving DecidableEq, Repr

/-- Whether a step stays in the directory that it is made in, or goes down from there. -/
def Step.isInward : Step → Bool
  | here | down _ => true
  | top | up => false

/-- The step of a component. An empty one and a dot ask for none. -/
def step? (component : String) : Option Step :=
  if Tree.isStay component then none
  else if component = ".." then some .up
  else some (.down component)

/-- What a path says about where it starts. A relative path says so only if it starts with a dot. -/
def firstStep? (path : String) : Option Step :=
  if isAbsolute path then some .top
  else if (components path).head? = some "." then some .here
  else none

/-- A path, step by step. -/
def steps (path : String) : List Step :=
  (firstStep? path).toList ++ (components path).filterMap step?

/-- A path behind another one. An absolute path stands alone. -/
def join (root path : String) : String :=
  if isAbsolute path ∨ root = "" then path
  else if root.toList.getLast? = some '/' then root ++ path
  else root ++ "/" ++ path

/-- The components without those at the end that stay where they are. The first one is kept. -/
def trimEnd : List String → List String
  | [] => []
  | c :: cs => c :: (cs.reverse.dropWhile Tree.isStay).reverse

/-- The components of the directory that a path is in. -/
def parent (cs : List String) : List String := trimEnd (trimEnd cs).dropLast

/-- The number of bytes from which on a path is too long. -/
def maxSize : Nat := 4096

/-- Refuse a path that no file system takes. -/
def check (path : String) : Except IOFailure Unit :=
  if '\x00' ∈ path.toList then .error .nulInName
  else if maxSize ≤ path.utf8ByteSize then .error .nameTooLong
  else .ok ()

end InstallManifest.Store.Path
