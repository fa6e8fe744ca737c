import InstallManifest.Text.Numeral
import InstallManifest.Yaml.Character
import InstallManifest.Yaml.Plain

/-!
How a text is written. A text with a line feed is written as a block, one that would be read back
as something else than itself in single quotes, and every other one plain; what a style cannot
express goes into the next one, and double quotes can express every text.
-/
namespace InstallManifest.Yaml
open Text

inductive Style where
  | plain
  | single
  | double
  | literal
deriving DecidableEq, Repr

namespace Style

/-- Whether two neighbours satisfy the two conditions, in order. -/
def adjacent (p q : Char → Bool) (cs : List Char) : Bool :=
  (cs.zip cs.tail).any fun (c, d) => p c && q d

/-- Whether nothing, or a blank or a break, comes first. -/
def startsBlank (cs : List Char) : Bool := cs.head?.all isBlankOrBreak

/-- The characters that cannot start a plain text. -/
def reserved : List Char :=
  ['#', ',', '[', ']', '\x7b', '\x7d', '&', '*', '!', '|', '>', '\'', '"', '%', '@', '`']

/-- Whether a text has a part that means something in a document: a document mark, an indicator at
its start, a colon in front of a blank, or a number sign behind one. -/
def hasIndicator (cs : List Char) : Bool :=
  let start :=
    match cs with
    | [] => false
    | c :: rest => c ∈ reserved || (c ∈ ['?', '-'] && startsBlank rest)
  cs.take 3 == ['-', '-', '-'] || cs.take 3 == ['.', '.', '.'] || start ||
    cs.getLast? == some ':' || adjacent (· == ':') isBlankOrBreak cs ||
    adjacent isBlankOrBreak (· == '#') cs

def hasBreak (cs : List Char) : Bool := cs.any isBreak

def isSpace (c : Char) : Bool := c == ' '

/-- Whether a space stands in front of a break. -/
def hasSpaceBeforeBreak (cs : List Char) : Bool := adjacent isSpace isBreak cs

def allowsPlain (cs : List Char) : Bool :=
  cs.all isPrintable && !hasBreak cs && !hasIndicator cs && !cs.head?.any isSpace &&
    !cs.getLast?.any isSpace

def allowsSingle (cs : List Char) : Bool :=
  cs.all isPrintable && !adjacent isBreak isSpace cs && !hasSpaceBeforeBreak cs

def allowsLiteral (cs : List Char) : Bool :=
  cs.all isPrintable && !hasSpaceBeforeBreak cs && !cs.getLast?.any isSpace

/-- Whether a text would be read back as itself if it was written plain. -/
def isOwnMeaning (s : String) : Bool :=
  match Plain.resolve s with
  | .string _ => !Plain.hasLeadingZero s
  | _ => false

/-- The style of a text. A text without a break stays on one line in every style that it gets. -/
def ofText (s : String) : Style :=
  let cs := s.toList
  if '\n' ∈ cs then if allowsLiteral cs then literal else double
  else if isOwnMeaning s && allowsPlain cs then plain
  else if allowsSingle cs then single
  else double

/-! ## The styles -/

/-- The characters with spaces in front of every line, but of the first one only if `atStart`. -/
def indented (indent : Nat) : Bool → List Char → List Char
  | _, [] => []
  | atStart, c :: cs =>
    if isBreak c then c :: indented indent true cs
    else (if atStart then List.replicate indent ' ' else []) ++ c :: indented indent false cs

/-- The escape of a character in double quotes. -/
def escape (c : Char) : List Char :=
  let hex (mark : Char) (width : Nat) :=
    mark :: (Numeral.padded 16 width c.toNat).map Char.toUpper
  match c.toNat with
  | 0x00 => ['0']
  | 0x07 => ['a']
  | 0x08 => ['b']
  | 0x09 => ['t']
  | 0x0a => ['n']
  | 0x0b => ['v']
  | 0x0c => ['f']
  | 0x0d => ['r']
  | 0x1b => ['e']
  | 0x22 => ['"']
  | 0x5c => ['\\']
  | 0x85 => ['N']
  | 0x2028 => ['L']
  | 0x2029 => ['P']
  | n => if n < 0x100 then hex 'x' 2 else if n < 0x10000 then hex 'u' 4 else hex 'U' 8

def doubleQuoted (cs : List Char) : List Char :=
  '"' :: (cs.flatMap fun c =>
    if !isPrintable c || isBreak c || c == '"' || c == '\\' then '\\' :: escape c else [c]) ++ ['"']

/-- A text in single quotes. A quote is written twice. -/
def singleQuoted (indent : Nat) (cs : List Char) : List Char :=
  let body := indented indent false (cs.flatMap fun c => if c = '\'' then ['\'', '\''] else [c])
  let ending := if cs.getLast?.any isBreak then List.replicate indent ' ' else []
  '\'' :: body ++ ending ++ ['\'']

/-- What the header of a block says: the indentation, if the first line does not show it, and
whether the text ends without a line break or with more than one. -/
def literalHeader (cs : List Char) : List Char :=
  let indentation := if cs.head?.any fun c => isSpace c || isBreak c then ['2'] else []
  let ending :=
    match cs.reverse with
    | [] => ['-']
    | [c] => if isBreak c then ['+'] else ['-']
    | c :: d :: _ => if !isBreak c then ['-'] else if isBreak d then ['+'] else []
  indentation ++ ending

def literalBlock (indent : Nat) (cs : List Char) : List Char :=
  '|' :: literalHeader cs ++ '\n' :: indented indent true cs

/-- A text in a style. Its further lines are indented. -/
def write (style : Style) (indent : Nat) (s : String) : List Char :=
  match style with
  | plain => s.toList
  | single => singleQuoted indent s.toList
  | double => doubleQuoted s.toList
  | literal => literalBlock indent s.toList

end Style
end InstallManifest.Yaml
