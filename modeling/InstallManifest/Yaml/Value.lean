import InstallManifest.Decimal.Shortest
import InstallManifest.Text.Numeral

/-!
Untyped document values. A mapping is a list of entries in document order; a value may carry a
local tag. `Value.same` is equality of what is denoted: the order of a mapping's entries does not
matter, and neither does the sign of zero or a mark in front of the name of a tag.
-/
namespace InstallManifest.Yaml
open Decimal

/-- A number: an integer or a double. -/
inductive Number where
  | int (n : Int)
  | float (x : Binary64)
deriving DecidableEq, Repr

namespace Number

def text : Number → String
  | int n => Text.Numeral.signedDecimal n
  | float x => Binary64.Layout.document.text x

/-- Equality of numbers of one kind; an integer never equals a double. -/
def same : Number → Number → Bool
  | int m, int n => m == n
  | float x, float y => x.same y
  | _, _ => false

end Number

inductive Value where
  | null
  | bool (b : Bool)
  | number (n : Number)
  | string (s : String)
  | seq (items : List Value)
  | map (entries : List (Value × Value))
  | tagged (tag : String) (value : Value)
deriving Inhabited, Repr

namespace Value

def int (n : Int) : Value := number (.int n)

/-- The name of a tag as it counts: a mark in front of it does not, unless it is all of the name. -/
def bareTag (tag : String) : String :=
  match tag.toList with
  | '!' :: c :: cs => String.ofList (c :: cs)
  | _ => tag

/-- The value without the tags around it. -/
def untag : Value → Value
  | tagged _ v => v.untag
  | v => v

/-- The text of a string, whatever tags it carries. -/
def text? (v : Value) : Option String :=
  match v.untag with
  | string s => some s
  | _ => none

mutual

/-- Equality up to the order of entries and the sign of zero. -/
def same : Value → Value → Bool
  | null, null => true
  | bool b, bool c => b == c
  | number m, number n => m.same n
  | string s, string t => s == t
  | seq xs, seq ys => sameItems xs ys
  | map es, map fs => es.length == fs.length && containedIn fs es
  | tagged s v, tagged t w => bareTag s == bareTag t && v.same w
  | _, _ => false

def sameItems : List Value → List Value → Bool
  | [], [] => true
  | x :: xs, y :: ys => x.same y && sameItems xs ys
  | _, _ => false

/-- Whether every entry of a mapping has an equal one among `others`. -/
def containedIn (others : List (Value × Value)) : List (Value × Value) → Bool
  | [] => true
  | (k, v) :: es => others.any (fun (l, w) => k.same l && v.same w) && containedIn others es

end

end Value
end InstallManifest.Yaml
