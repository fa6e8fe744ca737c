import InstallManifest.Data.Width
import InstallManifest.Text.Blank
import InstallManifest.Text.Numeral
import InstallManifest.Time.Calendar

/-!
Points in time, as text. A timestamp is written with its date, its time of day to the second and a
`Z`; it is read in a wider syntax: a `T` or a blank between date and time, white space in front of
a number or a separator, a fraction of a second, and an offset from UTC.
-/
namespace InstallManifest.Time
open Text

/-- A point in time in UTC. A leap second is the last second of its minute with a whole second of
nanoseconds on top. -/
structure Timestamp where
  /-- Days since the first of January of year 0. -/
  day : Int
  secondOfDay : Fin 86400
  nanosecond : Nat
deriving DecidableEq, Repr

/-- Why a text is not a timestamp. -/
inductive TimestampError where
  | invalid
  | tooShort
  | tooLong
  | outOfRange
  /-- The offset moves the time out of the years that are supported. -/
  | impossible
deriving DecidableEq, Repr

def TimestampError.message : TimestampError → String
  | invalid => "input contains invalid characters"
  | tooShort => "premature end of input"
  | tooLong => "trailing input"
  | outOfRange => "input is out of range"
  | impossible => "no possible date and time matching input"

namespace Timestamp

/-! ## Writing -/

/-- A year of four digits, or one with a sign and at least as many. -/
def yearChars (year : Int) : List Char :=
  if 0 ≤ year ∧ year ≤ 9999 then Numeral.padded 10 4 year.toNat
  else (if year < 0 then '-' else '+') :: Numeral.padded 10 4 year.natAbs

def text (t : Timestamp) : String :=
  let year := Calendar.yearOf t.day
  let (month, day) := Calendar.monthOf year (t.day - Calendar.daysBeforeYear year).toNat
  let two (n : Nat) := Numeral.padded 10 2 n
  let second := t.secondOfDay.val % 60 + t.nanosecond / 1000000000
  String.ofList <| yearChars year ++ '-' :: two month ++ '-' :: two day ++ 'T' ::
    two (t.secondOfDay / 3600) ++ ':' :: two (t.secondOfDay / 60 % 60) ++ ':' :: two second ++ ['Z']

/-! ## Reading -/

/-- A piece of a timestamp, read from the front of the characters. -/
abbrev Reader (α : Type) := List Char → Except TimestampError (α × List Char)

/-- A number of at least one digit, and of at most `width` ones. -/
def number (width : Option Nat) : Reader Nat := fun cs =>
  let cap := width.getD cs.length
  let ds := (cs.take cap).takeWhile Char.isDigit
  let n := Numeral.value 10 ds
  if cs = [] then .error .tooShort
  else if ds = [] then .error .invalid
  else if Width.isSigned 64 n then .ok (n, cs.drop ds.length)
  else .error .outOfRange

/-- A year: up to four digits, or a sign and any number of them. -/
def year : Reader Int := fun cs => do
  let (n, cs) ←
    match skipWhitespace cs with
    | '-' :: cs => (number none cs).map fun (n, cs) => (-(n : Int), cs)
    | '+' :: cs => (number none cs).map fun (n, cs) => ((n : Int), cs)
    | cs => (number (some 4) cs).map fun (n, cs) => ((n : Int), cs)
  if Width.isSigned 32 n then .ok (n, cs) else .error .outOfRange

/-- A number of one or two digits between two bounds. -/
def twoDigits (low high : Nat) : Reader Nat := fun cs => do
  let (n, cs) ← number (some 2) (skipWhitespace cs)
  if low ≤ n ∧ n ≤ high then .ok (n, cs) else .error .outOfRange

/-- A character, after white space. -/
def separator (c : Char) : Reader Unit := fun cs =>
  match skipWhitespace cs with
  | [] => .error .tooShort
  | d :: cs => if d = c then .ok ((), cs) else .error .invalid

/-- The `T` or the blank between date and time. -/
def dateEnd : Reader Unit
  | [] => .error .tooShort
  | c :: cs => if c ∈ ['t', 'T', ' '] then .ok ((), cs) else .error .invalid

/-- A fraction of a second in nanoseconds. Digits after the ninth are skipped. -/
def fraction : Reader Nat
  | '.' :: cs => do
    let (n, rest) ← number (some 9) cs
    let used := cs.length - rest.length
    .ok (n * Nat.pow 10 (9 - used), rest.dropWhile Char.isDigit)
  | cs => .ok (0, cs)

/-- Two digits, of which the first is below `tens`. -/
def offsetDigits (tens : Nat) : Reader Nat
  | a :: b :: cs =>
    if a.isDigit ∧ b.isDigit then
      let n := Numeral.value 10 [a, b]
      if n < tens * 10 then .ok (n, cs) else .error .outOfRange
    else .error .invalid
  | [c] => .error (if c.toNat < 128 then .tooShort else .invalid)
  | [] => .error .tooShort

/-- An offset from UTC in minutes: `Z`, or a sign, hours and minutes. -/
def zone : Reader Int
  | [] => .error .tooShort
  | c :: cs =>
    if c = 'Z' ∨ c = 'z' then .ok (0, cs)
    else if c ∉ ['+', '-', '\u2212'] then .error .invalid
    else do
      let (hours, cs) ← offsetDigits 10 cs
      let (minutes, cs) ← offsetDigits 6 (cs.dropWhile fun c => c = ':' || isWhitespace c)
      let n : Int := hours * 60 + minutes
      .ok (if c = '+' then n else -n, cs)

/-- An offset, or the letters `UTC`. -/
def offset : Reader Int
  | c :: d :: e :: cs =>
    if c.toUpper = 'U' ∧ d.toUpper = 'T' ∧ e.toUpper = 'C' then .ok (0, cs)
    else zone (c :: d :: e :: cs)
  | cs => zone cs

/-- Whether a year is within the supported ones. -/
def isSupported (year : Int) : Bool := -262143 ≤ year && year ≤ 262142

/-- The point in time of a date and a time of day that are `offset` minutes ahead of UTC. -/
def ofLocal (year : Int) (month day hour minute second nanosecond : Nat) (offset : Int) :
    Except TimestampError Timestamp :=
  if ¬ isSupported year ∨ Calendar.monthLength year month < day then .error .outOfRange
  else if 24 * 60 ≤ offset.natAbs then .error .outOfRange
  else
    let minutes := Calendar.dayNumber year month day * 1440 + hour * 60 + minute - offset
    let utcDay := minutes.fdiv 1440
    if ¬ isSupported (Calendar.yearOf utcDay) then .error .impossible
    else
      let (second, nanosecond) :=
        if second = 60 then (59, nanosecond + 1000000000) else (second, nanosecond)
      .ok ⟨utcDay, Fin.ofNat 86400 ((minutes.fmod 1440).toNat * 60 + second), nanosecond⟩

/-- The point in time that a text denotes. -/
def parse (s : String) : Except TimestampError Timestamp := do
  let (year, cs) ← year s.toList
  let ((), cs) ← separator '-' cs
  let (month, cs) ← twoDigits 1 12 cs
  let ((), cs) ← separator '-' cs
  let (day, cs) ← twoDigits 1 31 cs
  let ((), cs) ← dateEnd cs
  let (hour, cs) ← twoDigits 0 23 cs
  let ((), cs) ← separator ':' cs
  let (minute, cs) ← twoDigits 0 59 cs
  let ((), cs) ← separator ':' cs
  let (second, cs) ← twoDigits 0 60 cs
  let (nanosecond, cs) ← fraction cs
  let (offset, cs) ← offset (skipWhitespace cs)
  if skipWhitespace cs = [] then ofLocal year month day hour minute second nanosecond offset
  else .error .tooLong

end Timestamp
end InstallManifest.Time
