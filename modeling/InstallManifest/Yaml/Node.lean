import InstallManifest.Yaml.Error
import InstallManifest.Yaml.Token

/-!
Nodes as they are written, before their meaning is settled: scalars keep their text and their
presentation, collections their parts, and an alias stands for what an anchor elsewhere names. Tags
matter only as far as readers tell them apart.
-/
namespace InstallManifest.Yaml

inductive Tag where
  | absent
  /-- A local tag, without the mark in front of it. -/
  | named (name : String)
  | null
  | bool
  | int
  | float
  | other
  /-- A local tag that is not text. -/
  | garbled
deriving DecidableEq, Repr

namespace Tag

/-- The tags of the core kinds, and what they are short for. -/
def core : List (String × Tag) :=
  [("tag:yaml.org,2002:null", null), ("tag:yaml.org,2002:bool", bool),
    ("tag:yaml.org,2002:int", int), ("tag:yaml.org,2002:float", float)]

/-- A local tag. The mark alone is a name too. -/
def ofName (bytes : TagBytes) : Tag :=
  match String.fromUTF8? ⟨(if bytes = [] then [0x21] else bytes).toArray⟩ with
  | some name => named name
  | none => garbled

def ofBytes : TagBytes → Tag
  | 0x21 :: rest => ofName rest
  | bytes => ((String.fromUTF8? ⟨bytes.toArray⟩).bind fun s => core.lookup s).getD other

def ofBytes? : Option TagBytes → Tag
  | none => absent
  | some bytes => ofBytes bytes

end Tag

mutual

inductive Node where
  /-- What the anchor with a number names. -/
  | reference (number : Nat)
  | here (content : Content)

inductive Content where
  | scalar (tag : Tag) (text : String) (presentation : Presentation)
  | seq (tag : Tag) (items : List Node)
  | map (tag : Tag) (entries : List (Node × Node))

end

namespace Content

def empty : Content := scalar .absent "" .plain

def tag : Content → Tag
  | scalar tag _ _ => tag
  | seq tag _ => tag
  | map tag _ => tag

/-- What a scalar denotes. Some tags admit one kind only; of the others only a local tag leaves the
meaning to the text. -/
def meaning (tag : Tag) (text : String) (presentation : Presentation) :
    Except Cause Plain.Meaning :=
  let only (meaning : Option Plain.Meaning) (expected : String) : Except Cause Plain.Meaning :=
    match meaning with
    | some m => .ok m
    | none => .error (.invalidValue (.string text) expected)
  match tag with
  | .null => only (if Plain.isNull text then some .null else none) "null"
  | .bool => only ((Plain.bool? text).map .bool) "a boolean"
  | .int => only (Plain.number? text) "an integer"
  | .float => only ((Plain.float? text).map .float) "a float"
  | .other => .ok (.string text)
  | .absent | .named _ | .garbled =>
    .ok (if presentation = .plain then Plain.resolve text else .string text)

/-- Why something else cannot be read from a content. -/
def mismatch (expected : String) : Content → Cause
  | scalar tag text presentation =>
    match meaning tag text presentation with
    | .ok m => .invalidType (.ofMeaning m) expected
    | .error cause => cause
  | seq _ _ => .invalidType .seq expected
  | map _ _ => .invalidType .map expected

end Content

/-- The step to the value of a key. -/
def Step.toValueOf : Node → Step
  | .here (.scalar _ text _) => .key text
  | _ => .unnamed

end InstallManifest.Yaml
