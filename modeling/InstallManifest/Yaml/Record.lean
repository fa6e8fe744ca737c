import InstallManifest.Yaml.Reader

/-!
Records as mappings. A `Record` lists the keys of a type; writing a record and reading one both go
through this list, so they agree on the keys and on what stands under them. Records are read from
any `Source`: from an untyped value, or from a node of a document, which knows its place.

Keys that the list does not have are ignored. A key that comes again is an error, or the last one
wins, as the record says.
-/
namespace InstallManifest.Yaml

/-- What typed data can be read from. -/
class Source (σ : Type) where
  string : σ → Except ReadError String
  uint32 : σ → Except ReadError UInt32
  int32 : σ → Except ReadError Int32
  /-- One of the given names: a text, or the tag of a null. -/
  variant : List String → σ → Except ReadError String
  /-- Whether there is nothing in the place of an optional part. -/
  isMissing : σ → Except ReadError Bool
  items : σ → Except ReadError (List σ)
  /-- The keys and values of a mapping. The text says what was expected in its place. -/
  entries : String → σ → Except ReadError (List (Except ReadError String × σ))
  /-- Give an error the place of the source, if it has none. -/
  located : σ → ReadError → ReadError

/-- The two directions between a type and documents. -/
structure Codec (σ α : Type) where
  write : α → Value
  read : σ → Except ReadError α

namespace Codec
variable {σ α : Type} [Source σ]

def string : Codec σ String := ⟨.string, Source.string⟩

def uint32 : Codec σ UInt32 := ⟨fun n => .int n.toNat, Source.uint32⟩

def int32 : Codec σ Int32 := ⟨fun n => .int n.toInt, Source.int32⟩

def list (c : Codec σ α) : Codec σ (List α) where
  write xs := .seq (xs.map c.write)
  read src := do (← Source.items src).mapM c.read

end Codec

/-- A key of the records of a type. -/
structure Field (σ α : Type) where
  name : String
  /-- Whether a record without the key is refused. -/
  isRequired : Bool
  /-- What is written under the key, if anything. -/
  write : α → Option Value
  /-- What stands under the key, as a change to the record that has been read so far. -/
  read : σ → Except ReadError (α → α)

namespace Field
variable {σ α β : Type}

/-- A part that is always written. -/
def always (name : String) (get : α → β) (set : β → α → α) (c : Codec σ β) : Field σ α where
  name := name
  isRequired := false
  write x := some (c.write (get x))
  read src := (c.read src).map set

/-- A part that is left out in its trivial state. -/
def omitting (isTrivial : β → Bool) (name : String) (get : α → β) (set : β → α → α)
    (c : Codec σ β) : Field σ α :=
  { always name get set c with
    write := fun x => if isTrivial (get x) then none else some (c.write (get x)) }

/-- A text that is left out if it is empty. -/
def text [Source σ] (name : String) (get : α → String) (set : String → α → α) : Field σ α :=
  .omitting String.isEmpty name get set .string

/-- A list that is left out if it is empty. -/
def list [Source σ] (name : String) (get : α → List β) (set : List β → α → α)
    (c : Codec σ β) : Field σ α :=
  .omitting List.isEmpty name get set c.list

/-- An optional part. -/
def optional [Source σ] (name : String) (get : α → Option β) (set : Option β → α → α)
    (c : Codec σ β) : Field σ α where
  name := name
  isRequired := false
  write x := (get x).map c.write
  read src := do
    if ← Source.isMissing src then return set none
    return set (some (← c.read src))

end Field

/-- The keys of a type, in the order in which they are written. -/
structure Record (σ α : Type) where
  /-- The name of the type in messages. -/
  name : String
  /-- The record without any key. -/
  blank : α
  fields : List (Field σ α)
  /-- Whether a key may come again. -/
  isRepeatable : Bool

namespace Record
variable {σ α : Type}

/-- The mapping of a record. -/
def toValue (r : Record σ α) (x : α) : Value :=
  .map (r.fields.filterMap fun f => (f.write x).map fun v => (.string f.name, v))

/-- Take the entries of a mapping into a record. The names are those of the keys seen so far. -/
def readEntries (r : Record σ α) :
    List String → α → List (Except ReadError String × σ) → Except ReadError (List String × α)
  | seen, x, [] => .ok (seen, x)
  | seen, x, (key, src) :: rest => do
    let name ← key
    match r.fields.find? fun f => f.name == name with
    | none => r.readEntries seen x rest
    | some f =>
      if ¬ r.isRepeatable ∧ name ∈ seen then .error (.of (.duplicateField name))
      else
        let change ← f.read src
        r.readEntries (name :: seen) (change x) rest

/-- The record that a list of entries makes up. -/
def ofEntries (r : Record σ α) (entries : List (Except ReadError String × σ)) :
    Except ReadError α := do
  let (seen, x) ← r.readEntries [] r.blank entries
  match r.fields.find? fun f => f.isRequired && f.name ∉ seen with
  | some f => .error (.of (.missingField f.name))
  | none => .ok x

def read [Source σ] (r : Record σ α) (src : σ) : Except ReadError α :=
  (do r.ofEntries (← Source.entries r.name src)).mapError (Source.located src)

def codec [Source σ] (r : Record σ α) : Codec σ α := ⟨r.toValue, r.read⟩

end Record

/-! ## Values as a source -/

instance : Source Value where
  string := Value.readString
  uint32 := Value.readUInt32
  int32 := Value.readInt32
  variant := Value.readVariant
  isMissing
    | .null => .ok true
    | _ => .ok false
  items := Value.readItems
  entries expected v := do
    return (← v.readEntries expected).map fun (k, v) => (k.readText "field identifier", v)
  located _ error := error

namespace Codec

def bool : Codec Value Bool := ⟨.bool, Value.readBool⟩

def int64 : Codec Value Int64 := ⟨fun n => .int n.toInt, Value.readInt64⟩

def time : Codec Value Time.Timestamp := ⟨fun t => .string t.text, Value.readTime⟩

/-- Free-form data. -/
def any : Codec Value Value := ⟨id, Value.readAny⟩

end Codec
end InstallManifest.Yaml
