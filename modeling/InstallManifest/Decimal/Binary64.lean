import InstallManifest.Data.Width
import InstallManifest.Text.Numeral

/-!
Double-precision numbers as bits. A finite number is `mantissa * 2 ^ exponent`; reading a decimal
rounds it to the nearest such number, ties to the even mantissa. Nothing here needs hardware
arithmetic, so every function can be evaluated in a proof.
-/
namespace InstallManifest.Decimal

/-- A binary number of 64 bits: a sign, eleven bits of exponent and 52 bits of fraction. -/
structure Binary64 where
  bits : BitVec 64
deriving DecidableEq, Repr

namespace Binary64

def negative (x : Binary64) : Bool := x.bits.msb

/-- The exponent as it is stored, with its offset. -/
def biased (x : Binary64) : Nat := x.bits.toNat / Width.count 52 % Width.count 11

def fraction (x : Binary64) : Nat := x.bits.toNat % Width.count 52

def isNaN (x : Binary64) : Bool := x.biased = 2047 && x.fraction ≠ 0

def isInfinite (x : Binary64) : Bool := x.biased = 2047 && x.fraction = 0

def isFinite (x : Binary64) : Bool := x.biased < 2047

def isZero (x : Binary64) : Bool := x.biased = 0 && x.fraction = 0

/-- The mantissa of a finite number. -/
def mantissa (x : Binary64) : Nat :=
  if x.biased = 0 then x.fraction else x.fraction + Width.count 52

/-- The power of two that the mantissa of a finite number is multiplied by. -/
def exponent (x : Binary64) : Int := if x.biased = 0 then -1074 else (x.biased : Int) - 1075

/-- The numbers with the given sign and stored magnitude. -/
def ofMagnitude (negative : Bool) (magnitude : Nat) : Binary64 :=
  ⟨BitVec.ofNat 64 (magnitude + if negative then Width.count 63 else 0)⟩

def infinity (negative : Bool) : Binary64 := ofMagnitude negative (2047 * Width.count 52)

def nan : Binary64 := ofMagnitude false (2047 * Width.count 52 + Width.count 51)

/-- Equality of values: the two zeros are equal, and so are all that are not numbers. -/
def same (x y : Binary64) : Bool :=
  x.isNaN && y.isNaN || x.isZero && y.isZero || !x.isNaN && !y.isNaN && x == y

/-! ## Rounding -/

/-- `num / den`, rounded to the nearest integer, ties to the even one. -/
def roundDiv (num den : Nat) : Nat :=
  let q := num / den
  let twice := 2 * (num % den)
  if den < twice ∨ (twice = den ∧ q % 2 = 1) then q + 1 else q

/-- `num / den / 2 ^ e`, rounded. -/
def scaledDiv (num den : Nat) : Int → Nat
  | .ofNat e => roundDiv num (den * Nat.pow 2 e)
  | .negSucc e => roundDiv (num * Nat.pow 2 (e + 1)) den

/-- Whether `num / den < 2 ^ e`. -/
def below (num den : Nat) : Int → Bool
  | .ofNat e => num < den * Nat.pow 2 e
  | .negSucc e => num * Nat.pow 2 (e + 1) < den

/-- The number nearest to `num / den`. The exponent is the one that leaves 53 bits, but not less
than the least one; the stored magnitude then carries into the exponent by itself. -/
def ofRatio (negative : Bool) (num den : Nat) : Binary64 :=
  if num = 0 then ofMagnitude negative 0
  else
    let size : Int := (num.log2 : Int) - den.log2
    let fitted := if below num den size then size - 53 else size - 52
    let e := max fitted (-1074)
    let m := scaledDiv num den e
    let magnitude := m + (e + 1074).toNat * Width.count 52
    if 2047 * Width.count 52 ≤ magnitude then infinity negative else ofMagnitude negative magnitude

/-- The number nearest to `m * 10 ^ e`. A magnitude far outside the range is settled by its count
of digits. -/
def ofDecimal (negative : Bool) (m : Nat) (e : Int) : Binary64 :=
  let size : Int := (Text.Numeral.digits 10 m).length + e
  if m = 0 ∨ size < -400 then ofMagnitude negative 0
  else if 400 < size then infinity negative
  else
    match e with
    | .ofNat e => ofRatio negative (m * Nat.pow 10 e) 1
    | .negSucc e => ofRatio negative m (Nat.pow 10 (e + 1))

end Binary64
end InstallManifest.Decimal
