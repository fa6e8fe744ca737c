import InstallManifest.Yaml.Token.Property
import InstallManifest.Yaml.Token.Scalar

/-!
From characters to tokens. Two things cannot be told from the next characters alone. Whether a node
is a key is known only when its colon is found: until then its place among the tokens is kept, one
for each enclosing flow collection, and the tokens of the key are put there afterwards. And whether
a block collection begins or ends is told by the indentation.
-/
namespace InstallManifest.Yaml

/-- A node that is a key if a colon follows on its line. -/
structure KeyCandidate where
  /-- Whether there has to be a colon, because nothing else can stand at this column. -/
  isRequired : Bool
  /-- The number of tokens in front of it. -/
  position : Nat
  index : Nat
  line : Nat
  column : Nat

structure Lexer where
  cursor : Cursor
  /-- The tokens so far, last one first, and their number. -/
  tokens : List Token
  count : Nat
  /-- The candidate of the collection that the cursor is in. -/
  candidate : Option KeyCandidate
  /-- The candidates of the collections around it; there is one for each open flow collection. -/
  outer : List (Option KeyCandidate)
  /-- Whether a key can start here. -/
  allowsKey : Bool
  /-- The column of the innermost block collection, or -1. -/
  indent : Int
  indents : List Int

namespace Lexer

def ofChars (cs : List Char) : Lexer := ⟨.ofChars cs, [], 0, none, [], true, -1, []⟩

def inFlow (s : Lexer) : Bool := !s.outer.isEmpty

def push (s : Lexer) (t : Token) : Lexer := { s with tokens := t :: s.tokens, count := s.count + 1 }

/-- Put a token behind the first `position` ones. -/
def insertAt (s : Lexer) (position : Nat) (t : Token) : Lexer :=
  let later := s.count - position
  { s with tokens := s.tokens.take later ++ t :: s.tokens.drop later, count := s.count + 1 }

def skip (s : Lexer) (n : Nat) : Lexer := { s with cursor := s.cursor.advance n }

/-! ## Candidates for keys -/

/-- Whether a colon would come too late for a candidate: on another line, or too far away. -/
def isStale (s : Lexer) (k : KeyCandidate) : Bool :=
  k.line < s.cursor.line || k.index + 1024 < s.cursor.index

/-- Give a candidate up, if it is stale and a colon does not have to follow it. -/
def refresh? (s : Lexer) : Option KeyCandidate → Option (Option KeyCandidate)
  | none => some none
  | some k => if ¬ s.isStale k then some (some k) else if k.isRequired then none else some none

def refreshAll? (s : Lexer) : Option Lexer := do
  return { s with candidate := ← s.refresh? s.candidate, outer := ← s.outer.mapM s.refresh? }

/-- Give the innermost candidate up. -/
def dropCandidate? (s : Lexer) : Option Lexer :=
  if s.candidate.any (·.isRequired) then none else some { s with candidate := none }

/-- Make what starts here a candidate, where a key is allowed. -/
def saveCandidate? (s : Lexer) : Option Lexer :=
  if s.allowsKey then do
    let c := s.cursor
    let isRequired := !s.inFlow && s.indent == c.column
    let s ← s.dropCandidate?
    return { s with candidate := some ⟨isRequired, s.count, c.index, c.line, c.column⟩ }
  else some s

/-! ## Indentation -/

/-- Begin a block collection, if the column is behind that of the innermost one. Its token goes
behind the first `position` ones. -/
def roll (s : Lexer) (column position : Nat) (t : Token) : Lexer :=
  if s.inFlow ∨ (column : Int) ≤ s.indent then s
  else { s with indents := s.indent :: s.indents, indent := column }.insertAt position t

/-- End the block collections whose column is behind the given one. -/
def unrollFrom (column : Int) : List Int → Lexer → Lexer
  | [], s => s
  | outer :: indents, s =>
    if s.indent ≤ column then s
    else unrollFrom column indents { s.push .blockEnd with indent := outer, indents := indents }

def unroll (s : Lexer) (column : Int) : Lexer :=
  if s.inFlow then s else unrollFrom column s.indents s

/-! ## Tokens -/

/-- A node that a single token starts and ends, and that can be a key. -/
def node (read : Property.Reader Token) (s : Lexer) : Option Lexer := do
  let s ← s.saveCandidate?
  let (t, c) ← read s.cursor
  return { s with cursor := c, allowsKey := false }.push t

def openFlow (t : Token) (s : Lexer) : Option Lexer := do
  let s ← s.saveCandidate?
  return { s with outer := s.candidate :: s.outer, candidate := none, allowsKey := true }.push t
    |>.skip 1

def closeFlow (t : Token) (s : Lexer) : Option Lexer := do
  let s ← s.dropCandidate?
  let s :=
    match s.outer with
    | [] => s
    | k :: outer => { s with candidate := k, outer := outer }
  return { s with allowsKey := false }.push t |>.skip 1

def comma (s : Lexer) : Option Lexer := do
  let s ← s.dropCandidate?
  return { s with allowsKey := true }.push .comma |>.skip 1

def dash (s : Lexer) : Option Lexer :=
  if ¬ s.inFlow ∧ ¬ s.allowsKey then none
  else do
    let s ← (s.roll s.cursor.column s.count .blockSeq).dropCandidate?
    return { s with allowsKey := true }.push .dash |>.skip 1

/-- The mark of a key. -/
def key (s : Lexer) : Option Lexer :=
  if ¬ s.inFlow ∧ ¬ s.allowsKey then none
  else do
    let s ← (s.roll s.cursor.column s.count .blockMap).dropCandidate?
    return { s with allowsKey := !s.inFlow }.push .key |>.skip 1

/-- The colon in front of a value. If there is a candidate, it is the key. -/
def value (s : Lexer) : Option Lexer :=
  match s.candidate with
  | some k =>
    let s := (s.insertAt k.position .key).roll k.column k.position .blockMap
    some ({ s with candidate := none, allowsKey := false }.push .value |>.skip 1)
  | none =>
    if ¬ s.inFlow ∧ ¬ s.allowsKey then none
    else
      let s := s.roll s.cursor.column s.count .blockMap
      some ({ s with allowsKey := !s.inFlow }.push .value |>.skip 1)

def blockScalar (isLiteral : Bool) (s : Lexer) : Option Lexer := do
  let s ← s.dropCandidate?
  let (text, c) ← Scalar.block isLiteral s.indent s.cursor
  let t := Token.scalar text (if isLiteral then .literal else .other)
  return { s with cursor := c, allowsKey := true }.push t

/-- A plain scalar. A key can follow if it ended with a line. -/
def plain (s : Lexer) : Option Lexer := do
  let s ← s.saveCandidate?
  let (text, isFolded, c) ← Scalar.plain s.inFlow s.indent s.cursor
  return { s with cursor := c, allowsKey := isFolded }.push (.scalar text .plain)

/-- What stands outside documents: nothing that is open goes on behind it. -/
def boundary (s : Lexer) : Option Lexer := do
  let s ← (s.unroll (-1)).dropCandidate?
  return { s with allowsKey := false }

def documentMark (t : Token) (s : Lexer) : Option Lexer := do
  return (← s.boundary).push t |>.skip 3

def directive (s : Lexer) : Option Lexer := do
  let s ← s.boundary
  let (t, c) ← Property.directive s.cursor
  return { s with cursor := c }.push t

/-! ## The next token -/

/-- Go on over white space, comments and line breaks. Tabs are not white space where a key could
start, and a byte order mark at the start of a line is. -/
def skipToToken : Nat → Lexer → Lexer
  | 0, s => s
  | fuel + 1, s =>
    let c := s.cursor
    let c := if c.column = 0 ∧ c.seesChar '\ufeff' then c.advance 1 else c
    let c := c.skipWhile fun d => d == ' ' || (d == '\t' && (s.inFlow || !s.allowsKey))
    let c := c.skipComment
    if c.sees isBreak then
      skipToToken fuel { s with cursor := c.nextLine, allowsKey := s.allowsKey || !s.inFlow }
    else { s with cursor := c }

/-- Whether a character that has a meaning in front of a gap has it here. -/
def marks (s : Lexer) (c : Char) : Bool :=
  s.cursor.seesChar c && (s.inFlow || Cursor.isGap (s.cursor.rest.drop 1))

/-- The characters that no plain scalar starts with, besides blanks and breaks. -/
def indicators : List Char :=
  ['-', '?', ':', ',', '[', ']', '\x7b', '\x7d', '#', '&', '*', '!', '|', '>', '\'', '"', '%', '@',
    '`']

/-- Whether a plain scalar starts with the given characters. -/
def startsPlain (s : Lexer) : List Char → Bool
  | [] => false
  | c :: rest =>
    !isBlankOrBreak c && c ∉ indicators || c == '-' && !rest.head?.any isBlank ||
      !s.inFlow && (c == '?' || c == ':') && !Cursor.isGap rest

/-- Read the token that starts with a character. -/
def token (s : Lexer) (c : Char) : Option Lexer :=
  if s.cursor.column = 0 ∧ c = '%' then s.directive
  else if s.cursor.seesMark '-' then s.documentMark .documentStart
  else if s.cursor.seesMark '.' then s.documentMark .documentEnd
  else if c = '[' then s.openFlow .flowSeq
  else if c = '\x7b' then s.openFlow .flowMap
  else if c = ']' then s.closeFlow .flowSeqEnd
  else if c = '\x7d' then s.closeFlow .flowMapEnd
  else if c = ',' then s.comma
  else if c = '-' ∧ Cursor.isGap (s.cursor.rest.drop 1) then s.dash
  else if s.marks '?' then s.key
  else if s.marks ':' then s.value
  else if c = '*' then s.node fun c => (Property.name c).map fun (n, c) => (.reference n, c)
  else if c = '&' then s.node fun c => (Property.name c).map fun (n, c) => (.anchor n, c)
  else if c = '!' then s.node (Property.tag s.inFlow)
  else if c = '|' ∧ ¬ s.inFlow then s.blockScalar true
  else if c = '>' ∧ ¬ s.inFlow then s.blockScalar false
  else if c = '\'' ∨ c = '"' then
    s.node fun c => (Scalar.quoted c).map fun (text, c) => (.scalar text .other, c)
  else if s.startsPlain s.cursor.rest then s.plain
  else none

/-- Read all tokens. Every one but the last takes a character. -/
def run : Nat → Lexer → Option (List Token)
  | 0, _ => none
  | fuel + 1, s => do
    let s ← (skipToToken (s.cursor.size + 1) s).refreshAll?
    let s := s.unroll s.cursor.column
    match s.cursor.rest with
    | [] => return ((← s.boundary).push .streamEnd).tokens.reverse
    | c :: _ => run fuel (← s.token c)

end Lexer

/-- The tokens of the characters of a document, if they can be told apart. -/
def Token.ofChars? (cs : List Char) : Option (List Token) := (Lexer.ofChars cs).run (cs.length + 1)

end InstallManifest.Yaml
