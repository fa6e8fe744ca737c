/-!
Numerals in a radix from 2 to 16. A numeral is written with the lower-case digits of its radix
and read with either case; `read?` takes the longest run of digits and leaves the rest.
-/
namespace InstallManifest.Text.Numeral

/-- The value of a digit in any radix up to sixteen. -/
def digitValue? (c : Char) : Option Nat :=
  if '0' ≤ c ∧ c ≤ '9' then some (c.toNat - '0'.toNat)
  else if 'a' ≤ c ∧ c ≤ 'f' then some (c.toNat - 'a'.toNat + 10)
  else if 'A' ≤ c ∧ c ≤ 'F' then some (c.toNat - 'A'.toNat + 10)
  else none

/-- Whether a character is a digit of the radix. -/
def isDigit (radix : Nat) (c : Char) : Bool :=
  match digitValue? c with
  | some d => d < radix
  | none => false

/-- The number that a list of digits denotes, most significant digit first. -/
def value (radix : Nat) (cs : List Char) : Nat :=
  cs.foldl (fun n c => n * radix + (digitValue? c).getD 0) 0

/-- The digits of a number, most significant first; zero is one digit. -/
def digits (radix n : Nat) : List Char := Nat.toDigits radix n

/-- A number in decimal. -/
def decimal (n : Nat) : String := String.ofList (digits 10 n)

/-- An integer in decimal, with a sign only when it is negative. -/
def signedDecimal : Int → String
  | .ofNat n => decimal n
  | .negSucc n => "-" ++ decimal (n + 1)

/-- The digits of a number filled up with zeros to a least width. -/
def padded (radix width n : Nat) : List Char :=
  let ds := digits radix n
  List.replicate (width - ds.length) '0' ++ ds

/-- What a numeral has to satisfy to be read. -/
structure Bound where
  radix : Nat
  maxDigits : Nat
  below : Nat
  leadingZeros : Bool

/-- The longest run of digits at the front, if it is not empty, is not too long, denotes a number
below the bound, and has no leading zero where none is allowed. -/
def read? (b : Bound) (cs : List Char) : Option (Nat × List Char) :=
  let ds := cs.takeWhile (isDigit b.radix)
  let n := value b.radix ds
  if ds = [] ∨ b.maxDigits < ds.length ∨ b.below ≤ n then none
  else if ¬ b.leadingZeros ∧ ds.head? = some '0' ∧ 1 < ds.length then none
  else some (n, cs.dropWhile (isDigit b.radix))

/-- The number that a whole list of digits denotes, if there is a digit and nothing else. -/
def readAll? (radix : Nat) (cs : List Char) : Option Nat :=
  if cs ≠ [] ∧ cs.all (isDigit radix) then some (value radix cs) else none

end InstallManifest.Text.Numeral
