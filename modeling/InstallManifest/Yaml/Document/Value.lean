import InstallManifest.Yaml.Document

/-!
Documents as untyped values. A local tag stays on its value. Keys of a mapping are values and must
differ. Collections may be nested 128 deep, and aliases may be followed a hundred times as often as
the document has events.
-/
namespace InstallManifest.Yaml.Document

/-- A computation that counts the aliases it follows. -/
abbrev Counting (α : Type) := StateT Nat (Except ReadError) α

namespace Counting

def fail {α : Type} (error : ReadError) : Counting α := fun _ => .error error

/-- Give errors a place, if they have none. -/
def located {α : Type} (path : Path) (x : Counting α) : Counting α :=
  fun n => (x n).mapError (ReadError.located path)

end Counting

/-- A reader of the node at a path. -/
abbrev NodeReader := Path → Node → Counting Value

def maxDepth : Nat := 128

/-- How often aliases may be followed. -/
def maxAliases (d : Document) : Nat := 100 * d.size

/-- The content of a node; an alias counts. -/
def follow (d : Document) (node : Node) : Counting Content := fun n =>
  match node with
  | .here content => .ok (content, n)
  | .reference _ =>
    if n < d.maxAliases then .ok (d.content node, n + 1)
    else .error (.of .tooManyAliases)

/-- The value of a scalar. -/
def scalarValue : Plain.Meaning → Except Cause Value
  | .null => .ok .null
  | .bool b => .ok (.bool b)
  | .int n => .ok (.int n)
  | .wide n => .error (.invalidType (.wide n) "any YAML value")
  | .float x => .ok (.number (.float x))
  | .string s => .ok (.string s)

/-- The values of items from an index on. -/
def readItems (read : NodeReader) (path : Path) : Nat → List Node → Counting (List Value)
  | _, [] => return []
  | i, item :: items => do
    let v ← read (path ++ [.item i]) item
    return v :: (← readItems read path (i + 1) items)

/-- The values of entries behind some keys. A repeated key is found before its value is read. -/
def readEntries (read : NodeReader) (path : Path) :
    List Value → List (Node × Node) → Counting (List (Value × Value))
  | _, [] => return []
  | seen, (key, node) :: entries => do
    let k ← read path key
    match seen.find? k.same with
    | some earlier => .fail (.of (.duplicateKey earlier))
    | none =>
      let v ← read (path ++ [.toValueOf key]) node
      return (k, v) :: (← readEntries read path (k :: seen) entries)

/-- The value of a content without its local tag. Without a reader for its parts, a collection is
too deep. -/
def readContent (inner : Option NodeReader) (path : Path) : Content → Counting Value
  | .scalar tag text presentation => fun n =>
    match Content.meaning tag text presentation >>= scalarValue with
    | .ok v => .ok (v, n)
    | .error cause => .error (.of cause)
  | .seq _ items =>
    match inner with
    | some read => return .seq (← readItems read path 0 items)
    | none => .fail (.of .tooDeep)
  | .map _ entries =>
    match inner with
    | some read => return .map (← readEntries read path [] entries)
    | none => .fail (.of .tooDeep)

/-- The value of a node, given a reader for the parts of a collection. -/
def readWith (d : Document) (inner : Option NodeReader) : NodeReader := fun path node =>
  .located path do
    let content ← d.follow node
    let v ← readContent inner path content
    match content.tag with
    | .named name => return .tagged name v
    | _ => return v

/-- The value of a node below which collections may be nested to some depth. -/
def readNode (d : Document) : Nat → NodeReader
  | 0 => d.readWith none
  | depth + 1 => d.readWith (some (d.readNode depth))

/-- The value of a document. An empty stream counts as null. -/
def value (d : Document) : Except ReadError Value :=
  match d.root with
  | none => .ok .null
  | some content => (d.readNode maxDepth [] (.here content)).run' 0

end InstallManifest.Yaml.Document
