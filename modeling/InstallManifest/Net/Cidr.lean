import InstallManifest.Net.Address

/-!
Network ranges: an address and the length of its network prefix. The address keeps its host bits;
`network` clears them. `parse` reads any range, `parseSubnet` only one that names a subnet: its
address is not all zero and has no host bits.
-/
namespace InstallManifest.Net
open Text

/-- An address of `w` bits with a prefix length of at most `w`. -/
structure Range (w : Nat) where
  bits : BitVec w
  length : Fin (w + 1)
deriving DecidableEq, Repr

namespace Range
variable {w : Nat}

/-- The bits of a network prefix of length `p`. -/
def mask (w p : Nat) : BitVec w := BitVec.allOnes w <<< (w - p)

/-- The range with its host bits cleared. -/
def network (r : Range w) : Range w := { r with bits := r.bits &&& mask w r.length }

end Range

/-- A range of either family. -/
inductive Cidr where
  | v4 (range : Range 32)
  | v6 (range : Range 128)
deriving DecidableEq, Repr

/-- Why a text is not a range, or a range not a subnet. -/
inductive CidrError where
  /-- The text is not an address and a prefix length. -/
  | malformed (text : String)
  /-- The address is all zero. -/
  | unspecified (range : Cidr)
  /-- The address has host bits. -/
  | notNetworkAddress (got expected : Cidr)
deriving DecidableEq, Repr

namespace Cidr

/-- The address as it was written, host bits included. -/
def address : Cidr → Address
  | v4 r => .v4 r.bits
  | v6 r => .v6 r.bits

def prefixLength : Cidr → Nat
  | v4 r => r.length
  | v6 r => r.length

def family (c : Cidr) : Family := c.address.family

/-- The range with its host bits cleared. -/
def network : Cidr → Cidr
  | v4 r => v4 r.network
  | v6 r => v6 r.network

/-- Whether no host bit is set. -/
def isNetworkAddress (c : Cidr) : Bool := c.address = c.network.address

def chars (c : Cidr) : List Char := c.address.chars ++ '/' :: Numeral.digits 10 c.prefixLength

def text (c : Cidr) : String := String.ofList c.chars

/-- A prefix length of at most `w`, up to the end of the text: no more decimal digits than the
greatest length has. -/
def length? (w : Nat) (cs : List Char) : Option (Fin (w + 1)) :=
  let digits := (Numeral.digits 10 w).length
  match Address.char? '/' cs >>= Numeral.read? ⟨10, digits, w + 1, true⟩ with
  | some (n, []) => if h : n < w + 1 then some ⟨n, h⟩ else none
  | _ => none

def parse? (cs : List Char) : Option Cidr :=
  match Address.quad? .range cs with
  | some (n, rest) => (length? 32 rest).map fun l => v4 ⟨BitVec.ofNat 32 n, l⟩
  | none => do
    let (n, rest) ← Address.hex? .range cs
    return v6 ⟨BitVec.ofNat 128 n, ← length? 128 rest⟩

/-- The range that a text denotes. -/
def parse (text : String) : Except CidrError Cidr :=
  match parse? text.toList with
  | some c => .ok c
  | none => .error (.malformed text)

/-- Accept a range that names a subnet. -/
def validateSubnet (c : Cidr) : Except CidrError Unit :=
  if c.address.isUnspecified then .error (.unspecified c)
  else if c.isNetworkAddress then .ok ()
  else .error (.notNetworkAddress c c.network)

/-- The subnet that a text denotes. -/
def parseSubnet (text : String) : Except CidrError Cidr := do
  let c ← parse text
  c.validateSubnet
  return c

/-- The family of the range that a text denotes. -/
def classify (text : String) : Except CidrError Family := (parse text).map family

end Cidr

namespace CidrError

def message : CidrError → String
  | malformed text => "invalid CIDR address: " ++ text
  | unspecified range => "address must be specified: " ++ range.text
  | notNetworkAddress got expected =>
    "invalid network address. got " ++ got.text ++ ", expecting " ++ expected.text

end CidrError
end InstallManifest.Net
