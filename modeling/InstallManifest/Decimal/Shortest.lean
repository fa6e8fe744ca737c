import InstallManifest.Decimal.Binary64

/-!
The shortest decimal of a double: of all decimals that read back as the number, those with the
fewest digits, and of these the nearest; a tie goes to the even digit. `Layout` then says how the
digits are placed.
-/
namespace InstallManifest.Decimal.Binary64
open Text

/-- A decimal: `digits * 10 ^ exponent`. -/
structure DecimalForm where
  digits : Nat
  exponent : Int
deriving DecidableEq, Repr

/-- A positive rational. -/
structure Ratio where
  num : Nat
  den : Nat

/-- `n * 2 ^ e` as a ratio. -/
def Ratio.binary (n : Nat) : Int → Ratio
  | .ofNat e => ⟨n * Nat.pow 2 e, 1⟩
  | .negSucc e => ⟨n, Nat.pow 2 (e + 1)⟩

/-- The ratio divided by `10 ^ e`. -/
def Ratio.shift (r : Ratio) : Int → Ratio
  | .ofNat e => ⟨r.num, r.den * Nat.pow 10 e⟩
  | .negSucc e => ⟨r.num * Nat.pow 10 (e + 1), r.den⟩

/-- The point of the grid `10 ^ e` that reads back as the number `m * 2 ^ q`, if there is one: the
nearest of the two neighbours of the number that lie between its bounds. Half the distance to the
next number bounds it on either side; the bounds themselves belong to it if the mantissa is even.
Below a power of two the numbers are twice as dense. -/
def gridPoint? (m : Nat) (q : Int) (dense : Bool) (e : Int) : Option Nat :=
  let scale (n : Nat) := (Ratio.binary n (q - 2)).shift e
  let value := scale (4 * m)
  let low := scale (4 * m - if dense then 1 else 2)
  let high := scale (4 * m + 2)
  let down := value.num / value.den
  let downFits := 0 < down &&
    if m % 2 = 0 then low.num ≤ down * low.den else low.num < down * low.den
  let upFits :=
    if m % 2 = 0 then (down + 1) * high.den ≤ high.num else (down + 1) * high.den < high.num
  let twice := 2 * (value.num % value.den)
  if downFits && upFits then
    some (if twice < value.den ∨ (twice = value.den ∧ down % 2 = 0) then down else down + 1)
  else if downFits then some down
  else if upFits then some (down + 1)
  else none

/-- The first grid, from the coarsest one down, with a point that reads back. -/
def search (m : Nat) (q : Int) (dense : Bool) : Nat → Int → DecimalForm
  | 0, e => ⟨m, e⟩
  | fuel + 1, e =>
    match gridPoint? m q dense e with
    | some d => ⟨d, e⟩
    | none => search m q dense fuel (e - 1)

/-- The shortest decimal of a finite number that is not zero. -/
def shortest (x : Binary64) : DecimalForm :=
  let size : Int := x.exponent + x.mantissa.log2
  search x.mantissa x.exponent (x.fraction = 0 && 1 < x.biased) 24 ((size + 1) * 30103 / 100000 + 1)

/-- The digits in positional notation, with a point only if digits follow it. -/
def positional (d : DecimalForm) : List Char :=
  let ds := Numeral.digits 10 d.digits
  match d.exponent with
  | .ofNat e => ds ++ List.replicate e '0'
  | .negSucc e =>
    let places := e + 1
    if places < ds.length then ds.take (ds.length - places) ++ '.' :: ds.drop (ds.length - places)
    else '0' :: '.' :: List.replicate (places - ds.length) '0' ++ ds

/-- The digits in scientific notation: one digit in front of the point, which is left out if no
digit follows, and the exponent. -/
def scientific (d : DecimalForm) : List Char :=
  let ds := Numeral.digits 10 d.digits
  let e := d.exponent + ds.length - 1
  ds.take 1 ++ (if ds.length = 1 then [] else '.' :: ds.drop 1) ++
    'e' :: (Numeral.signedDecimal e).toList

/-- How the digits of a number are placed. -/
structure Layout where
  /-- Numbers from `10 ^ least` up and below `10 ^ most` are written positionally; without bounds,
  all are. -/
  range : Option (Int × Int)
  infinity : String
  nan : String

namespace Layout

/-- Numbers in documents: positional from `1e-5` up to `1e16`. -/
def document : Layout := ⟨some (-5, 16), ".inf", ".nan"⟩

/-- Numbers in messages: always positional. -/
def message : Layout := ⟨none, "inf", "NaN"⟩

/-- Whether a decimal is written positionally. -/
def isPositional (l : Layout) (d : DecimalForm) : Bool :=
  match l.range with
  | none => true
  | some (least, most) =>
    let size := d.exponent + (Numeral.digits 10 d.digits).length
    least < size && size ≤ most

/-- The text of a number; a positional one always has a point. -/
def text (l : Layout) (x : Binary64) : String :=
  let sign := if x.negative then "-" else ""
  if x.isNaN then l.nan
  else if x.isInfinite then sign ++ l.infinity
  else if x.isZero then sign ++ "0.0"
  else
    let d := x.shortest
    if l.isPositional d then
      let cs := positional d
      sign ++ String.ofList (if '.' ∈ cs then cs else cs ++ ['.', '0'])
    else sign ++ String.ofList (scientific d)

end Layout
end InstallManifest.Decimal.Binary64
