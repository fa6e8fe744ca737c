import InstallManifest.Text.Numeral

/-!
IP addresses and their text. Two syntaxes are read: `Form.range`, used in front of a prefix
length, takes leading zeros in decimal octets and a `::` that stands for no group at all;
`Form.bare`, used for an address on its own, takes neither. One form is written: decimal octets,
or hexadecimal groups with the longest run of two or more zero groups elided, the first such run
if there are several, and an embedded dotted quad for mapped addresses.
-/
namespace InstallManifest.Net
open Text

/-- The two families of addresses. -/
inductive Family where
  | ipv4
  | ipv6
deriving DecidableEq, Repr

namespace Family

def isIPv6 : Family → Bool
  | ipv4 => false
  | ipv6 => true

def text : Family → String
  | ipv4 => "IPv4"
  | ipv6 => "IPv6"

end Family

/-- An IP address, as its bits. -/
inductive Address where
  | v4 (bits : BitVec 32)
  | v6 (bits : BitVec 128)
deriving DecidableEq, Repr

namespace Address

def family : Address → Family
  | v4 _ => .ipv4
  | v6 _ => .ipv6

/-- The address whose bits are all zero. -/
def isUnspecified : Address → Bool
  | v4 bits => bits == 0
  | v6 bits => bits == 0

/-! ## Writing -/

/-- The four octets of an IPv4 address, in order. -/
def octets (bits : BitVec 32) : List Nat :=
  [24, 16, 8, 0].map fun shift => bits.toNat >>> shift % 256

/-- The eight groups of an IPv6 address, in order. -/
def groups (bits : BitVec 128) : List Nat :=
  [112, 96, 80, 64, 48, 32, 16, 0].map fun shift => bits.toNat >>> shift % 65536

/-- The numerals of a list of numbers with a separator between them. -/
def joined (radix : Nat) (separator : Char) : List Nat → List Char
  | [] => []
  | [n] => Numeral.digits radix n
  | n :: ns => Numeral.digits radix n ++ separator :: joined radix separator ns

/-- The number of zeros at the front of a list. -/
def leadingZeros (gs : List Nat) : Nat := (gs.takeWhile (· == 0)).length

/-- The start and the length of the longest run of zeros; the first one wins a tie. -/
def longestZeros (gs : List Nat) : Nat × Nat :=
  ((List.range gs.length).map fun i => (i, leadingZeros (gs.drop i))).foldl
    (fun best run => if best.2 < run.2 then run else best) (0, 0)

/-- The groups with their longest run of zeros elided, if it has at least two. -/
def compressed (gs : List Nat) : List Char :=
  let (start, length) := longestZeros gs
  if 1 < length then
    joined 16 ':' (gs.take start) ++ ':' :: ':' :: joined 16 ':' (gs.drop (start + length))
  else joined 16 ':' gs

/-- The IPv4 address that an IPv6 address maps, if it is of the form `::ffff:a.b.c.d`. -/
def mapped? (bits : BitVec 128) : Option (BitVec 32) :=
  if bits.toNat >>> 32 = 0xffff then some (BitVec.ofNat 32 bits.toNat) else none

def chars : Address → List Char
  | v4 bits => joined 10 '.' (octets bits)
  | v6 bits =>
    match mapped? bits with
    | some quad => "::ffff:".toList ++ joined 10 '.' (octets quad)
    | none => compressed (groups bits)

def text (a : Address) : String := String.ofList a.chars

/-! ## Reading -/

/-- What varies between the two syntaxes of addresses. -/
structure Form where
  /-- Whether a decimal octet may start with a zero that is not its only digit. -/
  leadingZeros : Bool
  /-- The least number of groups that a `::` stands for. -/
  leastElided : Nat

namespace Form

/-- The syntax of the address in front of a prefix length. -/
def range : Form := ⟨true, 0⟩

/-- The syntax of an address on its own. -/
def bare : Form := ⟨false, 1⟩

/-- A decimal octet. -/
def octet (s : Form) : Numeral.Bound := ⟨10, 3, 256, s.leadingZeros⟩

/-- A hexadecimal group. -/
def group : Numeral.Bound := ⟨16, 4, 65536, true⟩

end Form

/-- One given character. -/
def char? (c : Char) : List Char → Option (List Char)
  | [] => none
  | d :: rest => if d = c then some rest else none

/-- A dotted quad, as a number. -/
def quad? (s : Form) (cs : List Char) : Option (Nat × List Char) := do
  let (a, cs) ← Numeral.read? s.octet cs
  let (b, cs) ← Numeral.read? s.octet (← char? '.' cs)
  let (c, cs) ← Numeral.read? s.octet (← char? '.' cs)
  let (d, cs) ← Numeral.read? s.octet (← char? '.' cs)
  some (((a * 256 + b) * 256 + c) * 256 + d, cs)

/-- The input of an item of a colon-separated list: what follows the colon, or, for the first item,
all of it. -/
def afterColon? (first : Bool) (cs : List Char) : Option (List Char) :=
  if first then some cs else char? ':' cs

/-- At most `limit` groups with colons between them. A dotted quad counts for two groups and ends
the list; the flag says that there was one. -/
def readGroups (s : Form) : Nat → Bool → List Char → List Nat × Bool × List Char
  | 0, _, cs => ([], false, cs)
  | limit + 1, first, cs =>
    match if 1 ≤ limit then afterColon? first cs >>= quad? s else none with
    | some (n, rest) => ([n / 65536, n % 65536], true, rest)
    | none =>
      match afterColon? first cs >>= Numeral.read? Form.group with
      | none => ([], false, cs)
      | some (g, rest) =>
        let (gs, embedded, rest) := readGroups s limit false rest
        (g :: gs, embedded, rest)

/-- The number that a list of groups denotes. -/
def ofGroups (gs : List Nat) : Nat := gs.foldl (fun n g => n * 65536 + g) 0

/-- Eight groups, or two lists of groups around a `::`. -/
def hex? (s : Form) (cs : List Char) : Option (Nat × List Char) := do
  let (front, embedded, cs) := readGroups s 8 true cs
  if front.length = 8 then return (ofGroups front, cs)
  if embedded then none
  let cs ← char? ':' (← char? ':' cs)
  let (back, _, cs) := readGroups s (8 - (front.length + s.leastElided)) true cs
  return (ofGroups (front ++ List.replicate (8 - front.length - back.length) 0 ++ back), cs)

/-- An address in the bare syntax and nothing else. -/
def parse? (text : String) : Option Address :=
  match quad? .bare text.toList with
  | some (n, []) => some (v4 (BitVec.ofNat 32 n))
  | some _ => none
  | none =>
    match hex? .bare text.toList with
    | some (n, []) => some (v6 (BitVec.ofNat 128 n))
    | _ => none

end Address
end InstallManifest.Net
