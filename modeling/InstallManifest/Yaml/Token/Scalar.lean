import InstallManifest.Text.Numeral
import InstallManifest.Yaml.Cursor
import InstallManifest.Yaml.Token

/-!
Scalars: in quotes, plain, and as blocks. Lines are folded: between two lines of a text one break
is a blank, and of more breaks the first one is dropped. Texts under construction are lists of
characters, last one first.
-/
namespace InstallManifest.Yaml.Scalar
open Text

/-! ## The space between words -/

/-- The blanks and breaks between two words. -/
structure Gap where
  /-- The blanks of the line, as long as it goes on. -/
  blanks : List Char
  /-- Whether the line has ended. -/
  isFolded : Bool
  /-- What the first break stands for; nothing, if it was escaped. -/
  first : List Char
  /-- What the further breaks stand for. -/
  more : List Char

namespace Gap

/-- What stands for a gap in the text of a scalar. -/
def text (g : Gap) : List Char :=
  if ¬ g.isFolded then g.blanks
  else if g.first = ['\n'] then if g.more = [] then [' '] else g.more
  else g.first ++ g.more

/-- Read a gap. Without a tab in the indentation of a further line, which is the columns below the
given one. -/
def read (tabLimit : Int) : Nat → Gap → Cursor → Option (Gap × Cursor)
  | 0, g, c => some (g, c)
  | fuel + 1, g, c =>
    match c.rest with
    | [] => some (g, c)
    | d :: _ =>
      if isBlank d then
        if ¬ g.isFolded then read tabLimit fuel { g with blanks := g.blanks ++ [d] } (c.advance 1)
        else if d = '\t' ∧ c.column < tabLimit then none
        else read tabLimit fuel g (c.advance 1)
      else if isBreak d then
        if g.isFolded then read tabLimit fuel { g with more := g.more ++ c.breakText } c.nextLine
        else read tabLimit fuel ⟨[], true, c.breakText, []⟩ c.nextLine
      else some (g, c)

/-- The gap at a cursor. The flag says that a break in front of it was escaped. -/
def at? (tabLimit : Int) (isFolded : Bool) (c : Cursor) : Option (Gap × Cursor) :=
  read tabLimit c.size ⟨[], isFolded, [], []⟩ c

end Gap

/-! ## Quoted scalars -/

/-- The character with a code point, if there is one. -/
def charOf? (n : Nat) : Option Char := if n.isValidChar then some (Char.ofNat n) else none

/-- A character as hexadecimal digits of its code point. -/
def hexChar? (width : Nat) (cs : List Char) : Option (Char × Nat) :=
  let ds := cs.take width
  if ds.length < width then none
  else do return (← charOf? (← Numeral.readAll? 16 ds), width + 1)

/-- What follows a backslash: the character that is meant, and the number of characters that stand
for it. -/
def escape? : List Char → Option (Char × Nat)
  | [] => none
  | c :: cs =>
    match c with
    | '0' => some ('\x00', 1)
    | 'a' => some ('\x07', 1)
    | 'b' => some ('\x08', 1)
    | 't' | '\t' => some ('\t', 1)
    | 'n' => some ('\n', 1)
    | 'v' => some ('\x0b', 1)
    | 'f' => some ('\x0c', 1)
    | 'r' => some ('\r', 1)
    | 'e' => some ('\x1b', 1)
    | ' ' => some (' ', 1)
    | '"' => some ('"', 1)
    | '/' => some ('/', 1)
    | '\\' => some ('\\', 1)
    | 'N' => some ('\u0085', 1)
    | '_' => some ('\u00a0', 1)
    | 'L' => some ('\u2028', 1)
    | 'P' => some ('\u2029', 1)
    | 'x' => hexChar? 2 cs
    | 'u' => hexChar? 4 cs
    | 'U' => hexChar? 8 cs
    | _ => none

/-- The characters of a quoted scalar up to a gap or the closing quote. The flag says that the part
ends with an escaped break. -/
def quotedWord (quote : Char) : Nat → List Char → Cursor → Option (List Char × Bool × Cursor)
  | 0, _, _ => none
  | fuel + 1, text, c =>
    match c.rest with
    | [] => some (text, false, c)
    | d :: rest =>
      if isBlankOrBreak d then some (text, false, c)
      else if d = quote then
        if quote = '\'' ∧ rest.head? = some '\'' then
          quotedWord quote fuel ('\'' :: text) (c.advance 2)
        else some (text, false, c)
      else if quote = '"' ∧ d = '\\' then
        if rest.head?.any isBreak then some (text, true, (c.advance 1).nextLine)
        else do
          let (e, n) ← escape? rest
          quotedWord quote fuel (e :: text) (c.advance (n + 1))
      else quotedWord quote fuel (d :: text) (c.advance 1)

/-- A quoted scalar, behind its opening quote. -/
def quotedRest (quote : Char) : Nat → List Char → Cursor → Option (String × Cursor)
  | 0, _, _ => none
  | fuel + 1, text, c =>
    if c.seesDocumentMark ∨ c.rest = [] then none
    else do
      let (text, isFolded, c) ← quotedWord quote (c.size + 1) text c
      if c.seesChar quote then return (String.ofList text.reverse, c.advance 1)
      else
        let (gap, c) ← Gap.at? 0 isFolded c
        quotedRest quote fuel (gap.text.reverse ++ text) c

/-- A scalar in single or double quotes. -/
def quoted (c : Cursor) : Option (String × Cursor) :=
  match c.rest with
  | [] => none
  | quote :: _ => quotedRest quote (c.size + 1) [] (c.advance 1)

/-! ## Plain scalars -/

/-- The characters of a plain scalar up to a gap or an indicator, if no colon stands where it is
refused. -/
def plainWord (inFlow : Bool) : List Char → Option (List Char)
  | [] => some []
  | c :: cs =>
    if isBlankOrBreak c then some []
    else if inFlow && c == ':' &&
        cs.head?.any fun d => d ∈ [',', '?', '[', ']', '\x7b', '\x7d'] then none
    else if c == ':' && Cursor.isGap cs then some []
    else if inFlow && c ∈ [',', '[', ']', '\x7b', '\x7d'] then some []
    else (plainWord inFlow cs).map (c :: ·)

/-- A plain scalar. Its further lines are indented by more than the collection around it, except in
flow collections. Also returned is whether a break was read behind it. -/
def plainRest (inFlow : Bool) (indent : Int) :
    Nat → List Char → Gap → Cursor → Option (String × Bool × Cursor)
  | 0, _, _, _ => none
  | fuel + 1, text, gap, c =>
    let done (text : List Char) (isFolded : Bool) (c : Cursor) :=
      some (String.ofList text.reverse, isFolded, c)
    if c.seesDocumentMark ∨ c.seesChar '#' then done text gap.isFolded c
    else do
      let word ← plainWord inFlow c.rest
      let c := c.advance word.length
      let (text, gap) :=
        if word = [] then (text, gap)
        else (word.reverse ++ (gap.text.reverse ++ text), ⟨[], false, [], []⟩)
      if ¬ c.sees isBlankOrBreak then done text gap.isFolded c
      else
        let (gap, c) ← Gap.at? (indent + 1) false c
        if ¬ inFlow ∧ c.column < indent + 1 then done text gap.isFolded c
        else plainRest inFlow indent fuel text gap c

def plain (inFlow : Bool) (indent : Int) (c : Cursor) : Option (String × Bool × Cursor) :=
  plainRest inFlow indent (c.size + 1) [] ⟨[], false, [], []⟩ c

/-! ## Block scalars -/

/-- What becomes of the breaks at the end of a block. -/
inductive Chomping where
  | strip
  | clip
  | keep
deriving DecidableEq, Repr

def chomping? : Char → Option Chomping
  | '+' => some .keep
  | '-' => some .strip
  | _ => none

/-- The header of a block: its chomping and its indentation, in either order. -/
def header? (c : Cursor) : Option (Chomping × Nat × Cursor) :=
  let mode (c : Cursor) : Chomping × Cursor :=
    match c.rest.head? >>= chomping? with
    | some m => (m, c.advance 1)
    | none => (.clip, c)
  let width (c : Cursor) : Option (Nat × Cursor) :=
    match c.rest with
    | d :: _ =>
      if d = '0' then none
      else if d.isDigit then some (d.toNat - '0'.toNat, c.advance 1)
      else some (0, c)
    | [] => some (0, c)
  if (c.rest.head? >>= chomping?).isSome then do
    let (m, c) := mode c
    let (n, c) ← width c
    return (m, n, c)
  else do
    let (n, c) ← width c
    let (m, c) := if n = 0 then (.clip, c) else mode c
    return (m, n, c)

/-- The blank lines in front of a line of a block, and the indentation of the block. As long as that
is not known, it is the greatest column reached, but more than that of the collection around. -/
def blankLines (parent : Int) (indent : Nat) :
    Nat → Nat → List Char → Cursor → Option (Nat × List Char × Cursor)
  | 0, _, _, _ => none
  | fuel + 1, deepest, breaks, c =>
    let spaces := (c.rest.takeWhile (· == ' ')).length
    let c := c.advance (if indent = 0 then spaces else min spaces (indent - c.column))
    let deepest := max deepest c.column
    if (indent = 0 ∨ c.column < indent) ∧ c.seesChar '\t' then none
    else if c.sees isBreak then
      blankLines parent indent fuel deepest (breaks ++ c.breakText) c.nextLine
    else
      let found := max deepest (max (parent + 1).toNat 1)
      some (if indent = 0 then found else indent, breaks, c)

def blankLinesAt (parent : Int) (indent : Nat) (c : Cursor) : Option (Nat × List Char × Cursor) :=
  blankLines parent indent (c.size + 1) 0 [] c

/-- The lines of a block. Given are the text so far, the break at its end, the blank lines behind
that, and whether the last line started with a blank; such lines are not folded. -/
def blockLines (isLiteral : Bool) (chomping : Chomping) (indent : Nat) :
    Nat → List Char → List Char → List Char → Bool → Cursor → Option (String × Cursor)
  | 0, _, _, _, _, _ => none
  | fuel + 1, text, last, breaks, wasBlank, c =>
    if c.column ≠ indent ∨ c.rest = [] then
      let ending :=
        match chomping with
        | .strip => []
        | .clip => last
        | .keep => last ++ breaks
      some (String.ofList (text.reverse ++ ending), c)
    else do
      let startsBlank := c.sees isBlank
      let joint :=
        if ¬ isLiteral ∧ last = ['\n'] ∧ ¬ wasBlank ∧ ¬ startsBlank then
          if breaks = [] then [' '] else breaks
        else last ++ breaks
      let (line, c) := c.takeWhile fun d => !isBreak d
      let last := c.breakText
      let (_, breaks, c) ← blankLinesAt 0 indent c.skipBreak
      blockLines isLiteral chomping indent fuel
        (line.reverse ++ (joint.reverse ++ text)) last breaks startsBlank c

/-- A literal or a folded block under a collection of the given indentation. -/
def block (isLiteral : Bool) (parent : Int) (c : Cursor) : Option (String × Cursor) := do
  let (chomping, width, c) ← header? (c.advance 1)
  let c := c.skipBlanks.skipComment
  if ¬ c.atLineEnd then none
  else
    let known := if width = 0 then 0 else (max parent 0).toNat + width
    let (indent, breaks, c) ← blankLinesAt parent known c.skipBreak
    blockLines isLiteral chomping indent (c.size + 1) [] [] breaks false c

end InstallManifest.Yaml.Scalar
