import InstallManifest.Yaml.Style
import InstallManifest.Yaml.Value

/-!
The text of a value, in block style: an entry or an item a line, the items of a list under a key
not indented, empty collections in brackets. A key that is a short scalar stands in front of a
colon; every other key and its value have a mark of their own.

A printed part ends its line, so parts are put together by stacking them.
-/
namespace InstallManifest.Yaml

/-- Why a value has no text. -/
inductive WriteError where
  /-- A tag directly under a tag. -/
  | nestedTag
  /-- A mapping of one entry whose key is tagged or is itself a mapping of one entry. -/
  | ambiguousEntry
deriving DecidableEq, Repr

namespace WriteError

def message : WriteError → String
  | nestedTag => "serializing nested enums in YAML is not supported yet"
  | ambiguousEntry => "expected SCALAR, SEQUENCE-START, MAPPING-START, or ALIAS"

end WriteError

namespace Value

/-! ## Values that can be written -/

/-- Whether a key cannot be told from the tag of the mapping of one entry that it stands in. -/
def isAmbiguousKey : Value → Bool
  | tagged _ _ => true
  | map [_] => true
  | _ => false

mutual

/-- The first part of a value, in the order of writing, that has no text. -/
def writeError? (underTag : Bool) : Value → Option WriteError
  | tagged _ v => if underTag then some .nestedTag else writeError? true v
  | seq vs => writeErrorOfItems? vs
  | map es =>
    match es with
    | [(k, _)] =>
      if !underTag && k.isAmbiguousKey then some .ambiguousEntry else writeErrorOfEntries? es
    | _ => writeErrorOfEntries? es
  | _ => none

def writeErrorOfItems? : List Value → Option WriteError
  | [] => none
  | v :: vs => writeError? false v <|> writeErrorOfItems? vs

def writeErrorOfEntries? : List (Value × Value) → Option WriteError
  | [] => none
  | (k, v) :: es => writeError? false k <|> writeError? false v <|> writeErrorOfEntries? es

end

/-! ## Tags -/

/-- The characters of tags that need no escape. -/
def isTagChar (c : Char) : Bool :=
  isWordChar c || c ∈ [';', '/', '?', ':', '@', '&', '=', '+', '$', ',', '.', '~', '*', '\'', '(',
    ')', '[', ']']

/-- A byte as a percent escape. -/
def percent (byte : UInt8) : List Char :=
  '%' :: (Text.Numeral.padded 16 2 byte.toNat).map Char.toUpper

/-- The name of a tag. A character that is not allowed is written as the escapes of its bytes. -/
def tagChars (name : String) : List Char :=
  name.toList.flatMap fun c =>
    if isTagChar c then [c] else c.toString.toUTF8.toList.flatMap percent

/-- What is behind the mark of a tag. A name that counts with its own mark is written with that. -/
def tagSuffix (name : String) : String :=
  match (bareTag name).toList with
  | '!' :: cs => String.ofList cs
  | _ => bareTag name

/-- A local tag. One with nothing behind the mark is written out in full. -/
def tagText (name : String) : List Char :=
  if tagSuffix name = "" then "!<%21>".toList else '!' :: tagChars (tagSuffix name)

/-! ## Keys -/

/-- The text of a null, a truth value or a number. -/
def word : Value → List Char
  | bool true => "true".toList
  | bool false => "false".toList
  | number n => n.text.toList
  | _ => "null".toList

/-- The text of a key that fits in front of a colon, and the number of bytes that count towards
its limit: those of a scalar and of its tag. -/
def simpleKey? : Value → Option (List Char × Nat)
  | string s =>
    if Style.hasBreak s.toList then none
    else some ((Style.ofText s).write 0 s, s.utf8ByteSize)
  | tagged t v => do
    let (cs, n) ← simpleKey? v
    return (tagText t ++ ' ' :: cs, n + (tagSuffix t).utf8ByteSize + 1)
  | seq [] => some (['[', ']'], 0)
  | map [] => some (['\x7b', '\x7d'], 0)
  | seq _ => none
  | map _ => none
  | v => some (word v, (word v).length)

/-- A key that fits in front of a colon. -/
def shortKey? (k : Value) : Option (List Char) :=
  match simpleKey? k with
  | some (cs, n) => if n ≤ 128 then some cs else none
  | none => none

/-! ## Parts -/

/-- What stands in front of a part on its line. -/
structure Slot where
  /-- Whether a space has to follow. -/
  isSpaced : Bool
  /-- Whether a collection can start on the same line. -/
  isCompact : Bool
  /-- Whether the part belongs to an entry of a mapping. -/
  isOfEntry : Bool

namespace Slot

def root : Slot := ⟨false, true, false⟩

/-- Behind `key:`. -/
def afterKey : Slot := ⟨true, false, true⟩

/-- Behind `-`. -/
def afterDash : Slot := ⟨true, true, false⟩

/-- Behind `?`, or behind `:` at the start of a line. -/
def afterMark : Slot := ⟨true, true, true⟩

def afterTag (s : Slot) : Slot := ⟨true, false, s.isOfEntry⟩

def lead (s : Slot) : List Char := if s.isSpaced then [' '] else []

/-- What leads to the first line of a collection. -/
def opening (s : Slot) (indent : Nat) : List Char :=
  if s.isCompact then s.lead else '\n' :: List.replicate indent ' '

/-- The indentation of a list, given that of other collections. -/
def listIndent (s : Slot) (indent : Nat) : Nat :=
  if s.isOfEntry && !s.isCompact then indent - 2 else indent

/-- The indentation of the further lines of a scalar, given that of collections. -/
def scalarIndent (indent : Nat) : Nat := max 2 indent

end Slot

/-- End a line, unless the text has ended it. -/
def endLine (cs : List Char) : List Char :=
  if cs.getLast?.any isBreak then cs else cs ++ ['\n']

/-- The spaces in front of a line; the first line of a collection has its own. -/
def margin (isFirst : Bool) (indent : Nat) : List Char :=
  if isFirst then [] else List.replicate indent ' '

mutual

/-- A part, with the line breaks that end its lines. -/
def part (slot : Slot) (indent : Nat) : Value → List Char
  | string s =>
    slot.lead ++ endLine ((Style.ofText s).write (Slot.scalarIndent indent) s)
  | tagged t v => slot.lead ++ tagText t ++ part slot.afterTag indent v
  | seq vs =>
    let i := slot.listIndent indent
    if vs.isEmpty then slot.lead ++ endLine ['[', ']'] else slot.opening i ++ items true i vs
  | map es =>
    if es.isEmpty then slot.lead ++ endLine ['\x7b', '\x7d']
    else slot.opening indent ++ entries true indent es
  | v => slot.lead ++ endLine (word v)

def items (isFirst : Bool) (indent : Nat) : List Value → List Char
  | [] => []
  | v :: vs =>
    margin isFirst indent ++ '-' :: part .afterDash (indent + 2) v ++ items false indent vs

def entries (isFirst : Bool) (indent : Nat) : List (Value × Value) → List Char
  | [] => []
  | (k, v) :: es =>
    let entry :=
      match shortKey? k with
      | some cs => cs ++ ':' :: part .afterKey (indent + 2) v
      | none =>
        '?' :: part .afterMark (indent + 2) k ++ margin false indent ++
          ':' :: part .afterMark (indent + 2) v
    margin isFirst indent ++ entry ++ entries false indent es

end

/-- The text of a value. -/
def text (v : Value) : Except WriteError String :=
  match v.writeError? false with
  | some e => .error e
  | none => .ok (String.ofList (part .root 0 v))

end Value
end InstallManifest.Yaml
