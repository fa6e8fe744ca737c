import InstallManifest.Yaml.Character

/-!
A place in the characters of a document: what is still to be read, and how far the place is from
the start of the document and of its line. A carriage return with a line feed behind it is one
break.
-/
namespace InstallManifest.Yaml

structure Cursor where
  rest : List Char
  /-- The number of characters of the document, which bounds every run of characters in it. -/
  size : Nat
  /-- The bytes read so far. -/
  index : Nat
  line : Nat
  column : Nat

namespace Cursor

def ofChars (cs : List Char) : Cursor := ⟨cs, cs.length, 0, 0, 0⟩

/-- Whether the next character satisfies a condition. -/
def sees (c : Cursor) (p : Char → Bool) : Bool := c.rest.head?.any p

def seesChar (c : Cursor) (d : Char) : Bool := c.rest.head? == some d

/-- Whether a list of characters starts with a blank or a break, or is at its end. -/
def isGap (cs : List Char) : Bool := cs.head?.all isBlankOrBreak

/-- Whether a blank, a break, or the end is next. -/
def atGap (c : Cursor) : Bool := isGap c.rest

/-- Whether a break or the end is next. -/
def atLineEnd (c : Cursor) : Bool := c.rest.head?.all isBreak

/-- The number of bytes behind some characters, given that in front of them. -/
def indexAfter (index : Nat) (cs : List Char) : Nat := cs.foldl (fun n d => n + d.utf8Size) index

/-- Go on by some characters of the line. -/
def advance (c : Cursor) (n : Nat) : Cursor :=
  { c with
    rest := c.rest.drop n
    index := indexAfter c.index (c.rest.take n)
    column := c.column + n }

/-- Go on over one break. -/
def nextLine (c : Cursor) : Cursor :=
  match c.rest with
  | '\r' :: '\n' :: rest => ⟨rest, c.size, c.index + 2, c.line + 1, 0⟩
  | rest => ⟨rest.drop 1, c.size, indexAfter c.index (rest.take 1), c.line + 1, 0⟩

/-- What a break stands for: the separators for themselves, every other one for a line feed. -/
def breakText (c : Cursor) : List Char :=
  match c.rest with
  | [] => []
  | d :: _ => if d = '\u2028' ∨ d = '\u2029' then [d] else ['\n']

/-- The characters of the line as long as they satisfy a condition. -/
def takeWhile (c : Cursor) (p : Char → Bool) : List Char × Cursor :=
  let cs := c.rest.takeWhile p
  (cs, c.advance cs.length)

/-- Go on over the characters of the line that satisfy a condition. -/
def skipWhile (c : Cursor) (p : Char → Bool) : Cursor := (c.takeWhile p).2

def skipBlanks (c : Cursor) : Cursor := c.skipWhile isBlank

/-- Go on over a comment, up to the end of its line. -/
def skipComment (c : Cursor) : Cursor :=
  if c.seesChar '#' then c.skipWhile fun d => !isBreak d else c

/-- Go on over one break, if there is one. -/
def skipBreak (c : Cursor) : Cursor := if c.sees isBreak then c.nextLine else c

/-- Go on over a given character. -/
def expect? (c : Cursor) (d : Char) : Option Cursor :=
  if c.seesChar d then some (c.advance 1) else none

/-- Whether three given characters and a gap start the line. -/
def seesMark (c : Cursor) (d : Char) : Bool :=
  c.column == 0 && c.rest.take 3 == [d, d, d] && isGap (c.rest.drop 3)

/-- Whether the start or the end of a document is marked here. -/
def seesDocumentMark (c : Cursor) : Bool := c.seesMark '-' || c.seesMark '.'

end Cursor
end InstallManifest.Yaml
