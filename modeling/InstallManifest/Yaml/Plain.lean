import InstallManifest.Yaml.Value

/-!
What a plain scalar denotes: null, a truth value, an integer, a double, or else its own text. The
rules for each kind stand on their own, because a tag or a typed reader asks for one kind only.
-/
namespace InstallManifest.Yaml.Plain
open Text Decimal

/-- The words for null. -/
def isNull (s : String) : Bool := s ∈ ["null", "Null", "NULL", "~"]

def bool? (s : String) : Option Bool :=
  if s ∈ ["true", "True", "TRUE"] then some true
  else if s ∈ ["false", "False", "FALSE"] then some false
  else none

/-! ## Integers -/

/-- A decimal text with superfluous leading zeros: digits only, after at most one sign. -/
def hasLeadingZero (s : String) : Bool :=
  match s.toList with
  | '-' :: '0' :: d :: ds => (d :: ds).all Char.isDigit
  | '+' :: '0' :: d :: ds => (d :: ds).all Char.isDigit
  | '0' :: d :: ds => (d :: ds).all Char.isDigit
  | _ => false

/-- The characters without a plus sign in front. -/
def withoutPlus : List Char → List Char
  | '+' :: cs => cs
  | cs => cs

def isSign (c : Char) : Bool := c == '+' || c == '-'

/-- A radix mark, its radix, and what follows it. -/
def radix? : List Char → Option (Nat × List Char)
  | '0' :: 'x' :: cs => some (16, cs)
  | '0' :: 'o' :: cs => some (8, cs)
  | '0' :: 'b' :: cs => some (2, cs)
  | _ => none

/-- The digits of a radix that make up the whole text. -/
def digits? (radix : Nat) (cs : List Char) : Option Nat := Numeral.readAll? radix cs

/-- An integer that is not negative: a sign `+`, then digits or a radix mark and digits. -/
def natural? (s : String) : Option Nat :=
  let cs := withoutPlus s.toList
  match radix? cs with
  | some (radix, ds) => digits? radix ds
  | none => if hasLeadingZero s then none else digits? 10 cs

/-- An integer behind a minus sign. -/
def negative? (s : String) : Option Int :=
  match s.toList with
  | '-' :: cs =>
    match radix? cs with
    | some (radix, ds) => (digits? radix ds).map fun n => -(n : Int)
    | none => if hasLeadingZero s then none else (digits? 10 cs).map fun n => -(n : Int)
  | _ => none

/-- An integer of either sign. -/
def integer? (s : String) : Option Int :=
  match natural? s with
  | some n => some n
  | none => negative? s

/-! ## Doubles -/

/-- The characters of a decimal mantissa: its digits as a number, how many of them stand behind the
point, and the rest. There must be a digit. -/
def mantissa? (cs : List Char) : Option (Nat × Nat × List Char) :=
  let whole := cs.takeWhile Char.isDigit
  let rest := cs.dropWhile Char.isDigit
  match rest with
  | '.' :: rest =>
    let part := rest.takeWhile Char.isDigit
    if whole.isEmpty && part.isEmpty then none
    else some (Numeral.value 10 (whole ++ part), part.length, rest.dropWhile Char.isDigit)
  | rest => if whole.isEmpty then none else some (Numeral.value 10 whole, 0, rest)

/-- A decimal exponent up to the end of the text; without its mark, it is zero. -/
def exponent? : List Char → Option Int
  | [] => some 0
  | c :: cs =>
    if c = 'e' ∨ c = 'E' then
      match cs with
      | '-' :: ds => (digits? 10 ds).map fun n => -(n : Int)
      | '+' :: ds => (digits? 10 ds).map Int.ofNat
      | ds => (digits? 10 ds).map Int.ofNat
    else none

/-- A decimal text, rounded to a double. -/
def decimal? (cs : List Char) : Option Binary64 :=
  let (negative, cs) : Bool × List Char :=
    match cs with
    | '-' :: cs => (true, cs)
    | '+' :: cs => (false, cs)
    | cs => (false, cs)
  do
    let (m, places, rest) ← mantissa? cs
    let e ← exponent? rest
    return Binary64.ofDecimal negative m (e - places)

/-- A double: a decimal within range, or one of the words for infinity and for not a number. -/
def float? (s : String) : Option Binary64 :=
  if s ∈ [".inf", ".Inf", ".INF", "+.inf", "+.Inf", "+.INF"] then some (Binary64.infinity false)
  else if s ∈ ["-.inf", "-.Inf", "-.INF"] then some (Binary64.infinity true)
  else if s ∈ [".nan", ".NaN", ".NAN"] then some Binary64.nan
  else
    match s.toList with
    | '+' :: c :: _ => if isSign c then none else finite? s
    | _ => finite? s
where
  finite? (s : String) : Option Binary64 :=
    (decimal? s.toList).filter Binary64.isFinite

/-! ## All kinds -/

/-- What a scalar denotes. -/
inductive Meaning where
  | null
  | bool (b : Bool)
  /-- An integer that fits 64 bits, signed or not. -/
  | int (n : Int)
  /-- An integer that needs up to 128 bits; it is recognised, but no reader takes it. -/
  | wide (n : Int)
  | float (x : Binary64)
  | string (s : String)
deriving DecidableEq, Repr

/-- The meaning of an integer, if it fits 128 bits. -/
def ofInteger? (n : Int) : Option Meaning :=
  if Width.isSigned 64 n || Width.isUnsigned 64 n then some (.int n)
  else if Width.isSigned 128 n || Width.isUnsigned 128 n then some (.wide n)
  else none

/-- The meaning of a text as an integer. -/
def number? (s : String) : Option Meaning := integer? s >>= ofInteger?

/-- The meaning of a plain scalar. -/
def resolve (s : String) : Meaning :=
  if s = "" ∨ isNull s then .null
  else
    match bool? s with
    | some b => .bool b
    | none =>
      match number? s with
      | some m => m
      | none =>
        match if hasLeadingZero s then none else float? s with
        | some x => .float x
        | none => .string s

end InstallManifest.Yaml.Plain
