import InstallManifest.Yaml.Document
import InstallManifest.Yaml.Record

/-!
Typed reading straight from a document. A `Place` is a node with its path. A text is read from any
scalar, whatever its text would denote; so a plain `123` is a text where a text is wanted. The empty
plain scalar stands for an empty collection, but the words for null do not. Aliases are followed.
-/
namespace InstallManifest.Yaml

structure Place where
  document : Document
  path : Path
  content : Content

namespace Place

/-- A place of the same document. -/
def descend (p : Place) (step : Step) (node : Node) : Place :=
  ⟨p.document, p.path ++ [step], p.document.content node⟩

/-- The root of a document. An empty stream is like an empty scalar. -/
def root (d : Document) : Place := ⟨d, [], d.root.getD .empty⟩

/-- Refuse what stands at a place. -/
def fail {α : Type} (p : Place) (cause : Cause) : Except ReadError α :=
  .error (.located p.path (.of cause))

def mismatch {α : Type} (p : Place) (expected : String) : Except ReadError α :=
  p.fail (p.content.mismatch expected)

def readText (expected : String) (p : Place) : Except ReadError String :=
  match p.content with
  | .scalar _ text _ => .ok text
  | _ => p.mismatch expected

/-- The text of a scalar that can be an integer: a plain one, or a literal one with the tag. -/
def integerText? (p : Place) : Option String :=
  match p.content with
  | .scalar _ text .plain => some text
  | .scalar .int text .literal => some text
  | _ => none

def readUInt32 (p : Place) : Except ReadError UInt32 :=
  match (p.integerText?.bind Plain.natural?).filter fun (n : Nat) => Width.isUnsigned 64 n with
  | some n =>
    if Width.isUnsigned 32 n then .ok (UInt32.ofNat n)
    else p.fail (.invalidValue (.int n) "u32")
  | none => p.mismatch "u32"

def readInt32 (p : Place) : Except ReadError Int32 :=
  match (p.integerText?.bind Plain.integer?).filter (Width.isSigned 64) with
  | some n =>
    if Width.isSigned 32 n then .ok (Int32.ofInt n)
    else p.fail (.invalidValue (.int n) "i32")
  | none => p.mismatch "i32"

/-- Refuse what is not null behind a tag that names a variant. -/
def readNothing (p : Place) : Except ReadError Unit :=
  match p.content with
  | .scalar _ text presentation =>
    if presentation = .plain ∧ (text = "" ∨ Plain.isNull text) then .ok ()
    else p.fail (.invalidValue (.string text) "null")
  | _ => p.mismatch "unit"

/-- One of the given names. An unknown tag is an error of the record around it. -/
def readVariant (known : List String) (p : Place) : Except ReadError String :=
  match p.content.tag with
  | .named tag => do
    let name ← Value.knownVariant known tag
    p.readNothing
    return name
  | _ => do
    let name ← p.readText "a YAML tag starting with '!'"
    (Value.knownVariant known name).mapError (.located p.path)

/-- Whether there is nothing in the place of an optional part. -/
def isMissing (p : Place) : Except ReadError Bool :=
  match p.content with
  | .scalar tag text .plain =>
    match tag with
    | .absent => .ok (text = "" ∨ Plain.isNull text)
    | .null =>
      if Plain.isNull text then .ok true else .error (.of (.invalidValue (.string text) "null"))
    | _ => .ok false
  | _ => .ok false

def readItems (p : Place) : Except ReadError (List Place) :=
  match p.content with
  | .seq _ items => .ok (items.mapIdx fun i item => p.descend (.item i) item)
  | .scalar _ "" .plain => .ok []
  | _ => p.mismatch "a sequence"

/-- The name that a key stands for. Errors in it belong to the mapping. -/
def readKey (p : Place) (key : Node) : Except ReadError String :=
  readText "field identifier" { p with content := p.document.content key }

def readEntries (expected : String) (p : Place) :
    Except ReadError (List (Except ReadError String × Place)) :=
  match p.content with
  | .map _ entries =>
    .ok (entries.map fun (key, node) => (p.readKey key, p.descend (.toValueOf key) node))
  | .scalar _ "" .plain => .ok []
  | _ => p.mismatch expected

end Place

instance : Source Place where
  string := Place.readText "a string"
  uint32 := Place.readUInt32
  int32 := Place.readInt32
  variant := Place.readVariant
  isMissing := Place.isMissing
  items := Place.readItems
  entries := Place.readEntries
  located p := .located p.path

end InstallManifest.Yaml
