import InstallManifest.Yaml.Error

/-!
Typed reading of untyped values. A reader takes tags away first. Null stands for an empty
collection.
-/
namespace InstallManifest.Yaml.Value

/-- A typed view of a value, or the reason why there is none. -/
abbrev Reader (α : Type) := Value → Except ReadError α

/-- Reject a value of the wrong kind. -/
def mismatch {α : Type} (v : Value) (expected : String) : Except ReadError α :=
  .error (.of (.invalidType (.ofValue v) expected))

def readText (expected : String) : Reader String := fun v =>
  match v.untag with
  | .string s => .ok s
  | v => v.mismatch expected

def readString : Reader String := readText "a string"

def readBool : Reader Bool := fun v =>
  match v.untag with
  | .bool b => .ok b
  | v => v.mismatch "a boolean"

/-- An integer that fits. -/
def readInt (fits : Int → Bool) (expected : String) : Reader Int := fun v =>
  match v.untag with
  | .number (.int n) =>
    if fits n then .ok n
    else .error (.of (.invalidValue (.int n) expected))
  | v => v.mismatch expected

def readUInt32 : Reader UInt32 := fun v =>
  (readInt (Width.isUnsigned 32) "u32" v).map fun n => UInt32.ofNat n.toNat

def readInt32 : Reader Int32 := fun v =>
  (readInt (Width.isSigned 32) "i32" v).map Int32.ofInt

def readInt64 : Reader Int64 := fun v =>
  (readInt (Width.isSigned 64) "i64" v).map Int64.ofInt

/-- A timestamp, as its text. -/
def readTime : Reader Time.Timestamp := fun v => do
  let s ← readText "an RFC 3339 formatted date and time string" v
  match Time.Timestamp.parse s with
  | .ok t => .ok t
  | .error e => .error (.of (.invalidTime e))

/-- A name, if it is one of the known ones. -/
def knownVariant (known : List String) (name : String) : Except ReadError String :=
  if name ∈ known then .ok name else .error (.of (.unknownVariant name known))

/-- One of the given names: a text, or the tag of a null. -/
def readVariant (known : List String) : Reader String
  | .string s => knownVariant known s
  | .tagged t .null => knownVariant known t
  | .tagged t v => do
    let _ ← knownVariant known t
    v.mismatch "unit"
  | v => v.mismatch "a YAML tag starting with '!'"

/-- The entries of a mapping. -/
def readEntries (expected : String) : Reader (List (Value × Value)) := fun v =>
  match v.untag with
  | .map es => .ok es
  | .null => .ok []
  | v => v.mismatch expected

def readItems : Reader (List Value) := fun v =>
  match v.untag with
  | .seq vs => .ok vs
  | .null => .ok []
  | v => v.mismatch "a sequence"

mutual

/-- A value of any kind. The names of its tags become bare, and keys that differ in nothing else are
repeated then. -/
def readAny : Value → Except ReadError Value
  | tagged t v => do return .tagged (bareTag t) (← v.readAny)
  | seq vs => do return .seq (← readAnyItems vs)
  | map es => do return .map (← readAnyEntries [] es)
  | v => .ok v

def readAnyItems : List Value → Except ReadError (List Value)
  | [] => .ok []
  | v :: vs => do return (← v.readAny) :: (← readAnyItems vs)

/-- The entries behind some keys. -/
def readAnyEntries (seen : List Value) :
    List (Value × Value) → Except ReadError (List (Value × Value))
  | [] => .ok []
  | (key, v) :: es => do
    let k ← key.readAny
    match seen.find? k.same with
    | some earlier => .error (.of (.duplicateKey earlier))
    | none => return (k, ← v.readAny) :: (← readAnyEntries (k :: seen) es)

end

end InstallManifest.Yaml.Value
