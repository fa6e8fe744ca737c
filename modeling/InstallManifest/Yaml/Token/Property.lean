import InstallManifest.Text.Numeral
import InstallManifest.Yaml.Cursor
import InstallManifest.Yaml.Token

/-!
Anchors, aliases, tags and directives. The reader of each starts at its first character and returns
the place behind it.
-/
namespace InstallManifest.Yaml.Property
open Text

/-- Something read, and the place behind it. -/
abbrev Reader (α : Type) := Cursor → Option (α × Cursor)

/-! ## Anchors -/

/-- The characters that may stand directly behind the name of an anchor. -/
def endsName (c : Cursor) : Bool :=
  c.atGap || c.sees fun d => d ∈ ['?', ':', ',', ']', '\x7d', '%', '@', '`']

/-- The name behind the mark of an anchor or an alias. -/
def name : Reader String := fun c =>
  let (cs, c) := (c.advance 1).takeWhile isWordChar
  if cs ≠ [] ∧ endsName c then some (String.ofList cs, c) else none

/-! ## Tags -/

/-- The characters of tags, besides escapes. In a tag that is written in full, and in the text of a
directive, there are three more. -/
def isTagChar (inFull : Bool) (c : Char) : Bool :=
  isWordChar c || c ∈ [';', '/', '?', ':', '@', '&', '=', '+', '$', '.', '!', '~', '*', '\'', '(',
    ')'] || inFull && c ∈ [',', '[', ']']

/-- The number of bytes of a character in UTF-8, as its first byte says. -/
def encodedLength? (byte : Nat) : Option Nat :=
  if byte < 0x80 then some 1
  else if byte < 0xc0 then none
  else if byte < 0xe0 then some 2
  else if byte < 0xf0 then some 3
  else if byte < 0xf8 then some 4
  else none

/-- A byte as a percent escape, which has three characters. -/
def escapedByte? : List Char → Option Nat
  | '%' :: a :: b :: _ => Numeral.readAll? 16 [a, b]
  | _ => none

/-- The further escaped bytes of one character. -/
def continuation? : Nat → List Char → Option TagBytes
  | 0, _ => some []
  | n + 1, cs => do
    let byte ← escapedByte? cs
    if byte < 0x80 ∨ 0xc0 ≤ byte then none
    else return UInt8.ofNat byte :: (← continuation? n (cs.drop 3))

/-- The bytes of the characters of a tag, and the number of these characters. -/
def tagBytes? (inFull : Bool) : Nat → List Char → Option (TagBytes × Nat)
  | 0, _ => some ([], 0)
  | fuel + 1, cs =>
    match cs with
    | [] => some ([], 0)
    | c :: rest =>
      if c = '%' then do
        let byte ← escapedByte? cs
        let more ← continuation? ((← encodedLength? byte) - 1) (cs.drop 3)
        let width := 3 * (more.length + 1)
        let (bytes, n) ← tagBytes? inFull fuel (cs.drop width)
        return (UInt8.ofNat byte :: more ++ bytes, width + n)
      else if isTagChar inFull c then do
        let (bytes, n) ← tagBytes? inFull fuel rest
        return (UInt8.ofNat c.toNat :: bytes, n + 1)
      else some ([], 0)

/-- The bytes of a text. -/
def bytesOf (cs : List Char) : TagBytes := (String.ofList cs).toUTF8.toList

/-- The part of a tag that follows some characters of it. It ends at a zero byte. -/
def tagText (inFull : Bool) (before : List Char) : Reader TagBytes := fun c => do
  let (bytes, n) ← tagBytes? inFull c.size c.rest
  return ((bytesOf before ++ bytes).takeWhile (· ≠ 0), c.advance n)

/-- The mark of tags, a name, and the mark again if it is there. -/
def handle : Reader (List Char) := fun c => do
  let c ← c.expect? '!'
  let (cs, c) := c.takeWhile isWordChar
  return if c.seesChar '!' then ('!' :: cs ++ ['!'], c.advance 1) else ('!' :: cs, c)

/-- A tag in angle brackets, from the opening one on. -/
def fullTag : Reader Token := fun c => do
  let c ← c.expect? '<'
  let (bytes, c') ← tagText true [] c
  if c'.index = c.index then none else return (.tag "" bytes, ← c'.expect? '>')

/-- A tag of a handle and a suffix. What looks like a handle without its second mark is the start of
a suffix; the mark of tags alone is a tag too. -/
def shortTag : Reader Token := fun c => do
  let (h, c) ← handle c
  if 1 < h.length ∧ h.getLast? = some '!' then
    let (bytes, c') ← tagText false [] c
    if c'.index = c.index then none else return (.tag (String.ofList h) bytes, c')
  else
    let (bytes, c) ← tagText false (h.drop 1) c
    return (if bytes = [] then .tag "" (bytesOf ['!']) else .tag "!" bytes, c)

/-- A tag. It has to be followed by a gap, or by a comma in a flow collection. -/
def tag (inFlow : Bool) : Reader Token := fun c => do
  let (t, c) ← if (c.advance 1).seesChar '<' then fullTag (c.advance 1) else shortTag c
  if c.atGap ∨ (inFlow ∧ c.seesChar ',') then some (t, c) else none

/-! ## Directives -/

/-- A number of at most nine digits. -/
def versionNumber : Reader Nat := fun c =>
  let (cs, c) := c.takeWhile Char.isDigit
  if cs = [] ∨ 9 < cs.length then none else some (Numeral.value 10 cs, c)

def version : Reader Token := fun c => do
  let (major, c) ← versionNumber c.skipBlanks
  let (minor, c) ← versionNumber (← c.expect? '.')
  return (.version major minor, c)

def tagPrefix : Reader Token := fun c => do
  let (h, c) ← handle c.skipBlanks
  if h ≠ ['!'] ∧ ¬ (1 < h.length ∧ h.getLast? = some '!') then none
  else if ¬ c.sees isBlank then none
  else
    let c := c.skipBlanks
    let (bytes, c') ← tagText true [] c
    if c'.index = c.index ∨ ¬ c'.atGap then none
    else return (.tagPrefix (String.ofList h) bytes, c')

/-- A directive with its line. -/
def directive : Reader Token := fun c => do
  let (name, c) := (c.advance 1).takeWhile isWordChar
  if ¬ c.atGap then none
  else
    let (token, c) ←
      if name = "YAML".toList then version c
      else if name = "TAG".toList then tagPrefix c
      else none
    let c := c.skipBlanks.skipComment
    if c.atLineEnd then some (token, c.skipBreak) else none

end InstallManifest.Yaml.Property
