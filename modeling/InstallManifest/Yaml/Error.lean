import InstallManifest.Text.Quoted
import InstallManifest.Time.Timestamp
import InstallManifest.Yaml.Plain

/-!
Why a document cannot be read. A document that is not well formed has no further description.
Otherwise the error says what was found and what was expected, and where: the path is the one of
the innermost reader that knows its position. The root of a document is not named in messages.
-/
namespace InstallManifest.Yaml
open Text Decimal

/-! ## Paths -/

/-- A step from a collection to one of its parts. -/
inductive Step where
  | key (text : String)
  /-- The value of a key that is not a scalar. -/
  | unnamed
  | item (index : Nat)
deriving DecidableEq, Repr

/-- The steps from the root of a document to a part of it, outermost first. -/
abbrev Path := List Step

namespace Path

/-- The text of a path that goes on with a key: nothing at the root, else the text and a dot. -/
def lead : Option String → String
  | none => ""
  | some text => text ++ "."

/-- The text of a path behind an enclosing one, which is `none` at the root. -/
def textAfter : Option String → Path → String
  | none, [] => "."
  | some text, [] => text
  | before, .key k :: path => textAfter (some (lead before ++ k)) path
  | before, .unnamed :: path => textAfter (some (lead before ++ "?")) path
  | before, .item i :: path =>
    textAfter (some (before.getD "." ++ "[" ++ Numeral.decimal i ++ "]")) path

def text (path : Path) : String := textAfter none path

end Path

/-! ## Causes -/

/-- What a reader came across. -/
inductive Found where
  | bool (b : Bool)
  | int (n : Int)
  /-- An integer of more than 64 bits. -/
  | wide (n : Int)
  | float (x : Binary64)
  | string (s : String)
  | unit
  | seq
  | map
  | variant
deriving DecidableEq, Repr

namespace Found

def text : Found → String
  | bool b => "boolean `" ++ (if b then "true" else "false") ++ "`"
  | int n => "integer `" ++ Numeral.signedDecimal n ++ "`"
  | wide n =>
    "integer `" ++ Numeral.signedDecimal n ++ "` as " ++ (if n < 0 then "i128" else "u128")
  | float x => "floating point `" ++ Binary64.Layout.message.text x ++ "`"
  | string s => "string " ++ Quoted.quote s
  | unit => "unit value"
  | seq => "sequence"
  | map => "map"
  | variant => "enum"

/-- What the meaning of a scalar is reported as. -/
def ofMeaning : Plain.Meaning → Found
  | .null => unit
  | .bool b => bool b
  | .int n => int n
  | .wide n => wide n
  | .float x => float x
  | .string s => string s

/-- What a value is reported as. -/
def ofValue : Value → Found
  | .null => unit
  | .bool b => bool b
  | .number (.int n) => int n
  | .number (.float x) => float x
  | .string s => string s
  | .seq _ => seq
  | .map _ => map
  | .tagged _ _ => variant

end Found

inductive Cause where
  | invalidType (found : Found) (expected : String)
  | invalidValue (found : Found) (expected : String)
  | unknownVariant (name : String) (known : List String)
  | missingField (name : String)
  | duplicateField (name : String)
  | duplicateKey (key : Value)
  | invalidTime (error : Time.TimestampError)
  /-- Collections are nested too deeply. -/
  | tooDeep
  /-- Aliases are followed too often. -/
  | tooManyAliases

namespace Cause

/-- A key, as the message on its repetition names it. -/
def keyText : Value → String
  | .null => "with null key"
  | .bool b => "with key `" ++ (if b then "true" else "false") ++ "`"
  | .number n => "with key " ++ n.text
  | .string s => "with key " ++ Quoted.quote s
  | _ => "in YAML map"

def message : Cause → String
  | invalidType found expected => "invalid type: " ++ found.text ++ ", expected " ++ expected
  | invalidValue found expected => "invalid value: " ++ found.text ++ ", expected " ++ expected
  | unknownVariant name known =>
    "unknown variant `" ++ name ++ "`, expected " ++
      String.intercalate " or " (known.map fun k => "`" ++ k ++ "`")
  | missingField name => "missing field `" ++ name ++ "`"
  | duplicateField name => "duplicate field `" ++ name ++ "`"
  | duplicateKey key => "duplicate entry " ++ keyText key
  | invalidTime error => error.message
  | tooDeep => "recursion limit exceeded"
  | tooManyAliases => "repetition limit exceeded"

/-- Whether the place of an error belongs to its message. -/
def isLocated : Cause → Bool
  | tooDeep => false
  | tooManyAliases => false
  | _ => true

end Cause

/-! ## Errors -/

inductive ReadError where
  /-- The bytes are not one well-formed document. -/
  | malformed
  | rejected (path : Option Path) (cause : Cause)

namespace ReadError

/-- An error of a reader that does not know where it is. -/
def of (cause : Cause) : ReadError := rejected none cause

/-- Place an error, unless it is placed already or has no place. -/
def located (path : Path) : ReadError → ReadError
  | rejected none cause => rejected (if cause.isLocated then some path else none) cause
  | error => error

def isMalformed : ReadError → Bool
  | malformed => true
  | rejected _ _ => false

def message : ReadError → String
  | malformed => "malformed document"
  | rejected none cause => cause.message
  | rejected (some path) cause =>
    if path.text = "." then cause.message else path.text ++ ": " ++ cause.message

end ReadError
end InstallManifest.Yaml
