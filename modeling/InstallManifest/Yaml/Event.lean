import InstallManifest.Yaml.Token

/-!
The events of a document: its nodes in the order in which they start, and the ends of collections.
They are read off the tokens by a machine with a stack of goals; a goal is a part of the document
that is still to be read. Where a node is left out, there is an empty scalar.
-/
namespace InstallManifest.Yaml

/-- What stands in front of a node. -/
structure Properties where
  anchor : Option String
  tag : Option TagBytes
deriving DecidableEq, Repr

def Properties.none : Properties := ⟨.none, .none⟩

inductive Event where
  /-- An alias. -/
  | reference (name : String)
  | scalar (properties : Properties) (text : String) (presentation : Presentation)
  | seqStart (properties : Properties)
  | seqEnd
  | mapStart (properties : Properties)
  | mapEnd
deriving DecidableEq, Repr

namespace Event

def empty : Event := scalar .none "" .plain

/-! ## Directives -/

/-- What the handles of tags stand for. -/
abbrev Handles := List (String × TagBytes)

/-- The handles that need no directive. -/
def standardHandles : Handles :=
  [("!", "!".toUTF8.toList), ("!!", "tag:yaml.org,2002:".toUTF8.toList)]

/-- The directives in front of a document, and the tokens behind them. The version is given at most
once, and each handle too; the version has to be 1.1 or 1.2. -/
def directives? (hasVersion : Bool) (handles : Handles) : List Token → Option (Handles × List Token)
  | .version major minor :: rest =>
    if hasVersion ∨ major ≠ 1 ∨ (minor ≠ 1 ∧ minor ≠ 2) then none
    else directives? true handles rest
  | .tagPrefix handle text :: rest =>
    if (handles.lookup handle).isSome then none
    else directives? hasVersion ((handle, text) :: handles) rest
  | tokens => some (handles, tokens)

/-! ## Nodes -/

/-- A part of a document that is still to be read. -/
inductive Goal where
  /-- A node, with what it can be: a block collection, and a list that is not indented. -/
  | node (canBeBlock canBeIndentless : Bool)
  | blockItems
  | indentlessItems
  | blockEntries
  | blockValue
  | flowItems (isFirst : Bool)
  /-- The entry of a mapping in a flow list that has no brackets. -/
  | pairKey
  | pairValue
  | pairEnd
  | flowEntries (isFirst : Bool)
  | flowValue
  /-- The value of a key without a mark. -/
  | noValue

/-- What a step does: the events it gives, the goals in place of the one it takes, and the tokens
that are left. -/
structure Step where
  events : List Event
  goals : List Goal
  tokens : List Token

/-- The tag that a handle and a suffix make up. -/
def expandTag? (handles : Handles) (handle : String) (suffix : TagBytes) : Option TagBytes :=
  if handle = "" then some suffix else (handles.lookup handle).map (· ++ suffix)

/-- The tokens of the properties of a node: an anchor and a tag, in either order. -/
def properties? (handles : Handles) : List Token → Option (Properties × List Token)
  | .anchor a :: .tag h s :: rest => do return (⟨some a, ← expandTag? handles h s⟩, rest)
  | .tag h s :: .anchor a :: rest => do return (⟨some a, ← expandTag? handles h s⟩, rest)
  | .anchor a :: rest => some (⟨some a, none⟩, rest)
  | .tag h s :: rest => do return (⟨none, ← expandTag? handles h s⟩, rest)
  | tokens => some (.none, tokens)

/-- Read the start of a node, and all of a scalar or an alias. -/
def node? (handles : Handles) (canBeBlock canBeIndentless : Bool) (tokens : List Token) :
    Option Step :=
  match tokens with
  | .reference name :: rest => some ⟨[reference name], [], rest⟩
  | _ => do
    let (p, tokens) ← properties? handles tokens
    match tokens with
    | .scalar text presentation :: rest => some ⟨[scalar p text presentation], [], rest⟩
    | .flowSeq :: rest => some ⟨[seqStart p], [.flowItems true], rest⟩
    | .flowMap :: rest => some ⟨[mapStart p], [.flowEntries true], rest⟩
    | t :: rest =>
      if canBeIndentless ∧ t = .dash then some ⟨[seqStart p], [.indentlessItems], tokens⟩
      else if canBeBlock ∧ t = .blockSeq then some ⟨[seqStart p], [.blockItems], rest⟩
      else if canBeBlock ∧ t = .blockMap then some ⟨[mapStart p], [.blockEntries], rest⟩
      else if p = .none then none
      else some ⟨[scalar p "" .plain], [], tokens⟩
    | [] => none

/-- Whether one of the given tokens is next. -/
def nextIsIn (ts tokens : List Token) : Bool := tokens.head?.any fun t => t ∈ ts

/-- A node and then a goal, or an empty scalar and the goal if one of the given tokens is next. -/
def nodeUnless (ts : List Token) (node next : Goal) (tokens : List Token) : Step :=
  if nextIsIn ts tokens then ⟨[empty], [next], tokens⟩ else ⟨[], [node, next], tokens⟩

/-- The items of a flow list, behind the comma. -/
def flowItem (tokens : List Token) : Step :=
  match tokens with
  | .flowSeqEnd :: rest => ⟨[seqEnd], [], rest⟩
  | .key :: rest => ⟨[mapStart .none], [.pairKey, .flowItems false], rest⟩
  | _ => ⟨[], [.node false false, .flowItems false], tokens⟩

/-- The entries of a flow mapping, behind the comma. -/
def flowEntry (tokens : List Token) : Step :=
  match tokens with
  | .flowMapEnd :: rest => ⟨[mapEnd], [], rest⟩
  | .key :: rest => nodeUnless [.value, .comma, .flowMapEnd] (.node false false) .flowValue rest
  | _ => ⟨[], [.node false false, .noValue], tokens⟩

/-- Work on a goal. -/
def step? (handles : Handles) (goal : Goal) (tokens : List Token) : Option Step :=
  match goal with
  | .node canBeBlock canBeIndentless => node? handles canBeBlock canBeIndentless tokens
  | .blockItems =>
    match tokens with
    | .dash :: rest => nodeUnless [.dash, .blockEnd] (.node true false) .blockItems rest
    | .blockEnd :: rest => some ⟨[seqEnd], [], rest⟩
    | _ => none
  | .indentlessItems =>
    match tokens with
    | .dash :: rest =>
      nodeUnless [.dash, .key, .value, .blockEnd] (.node true false) .indentlessItems rest
    | _ => some ⟨[seqEnd], [], tokens⟩
  | .blockEntries =>
    match tokens with
    | .key :: rest => nodeUnless [.key, .value, .blockEnd] (.node true true) .blockValue rest
    | .blockEnd :: rest => some ⟨[mapEnd], [], rest⟩
    | _ => none
  | .blockValue =>
    match tokens with
    | .value :: rest => nodeUnless [.key, .value, .blockEnd] (.node true true) .blockEntries rest
    | _ => some ⟨[empty], [.blockEntries], tokens⟩
  | .flowItems isFirst =>
    match tokens with
    | .flowSeqEnd :: rest => some ⟨[seqEnd], [], rest⟩
    | .comma :: rest => if isFirst then none else some (flowItem rest)
    | _ => if isFirst then some (flowItem tokens) else none
  | .pairKey =>
    if nextIsIn [.value, .comma, .flowSeqEnd] tokens then
      some ⟨[empty], [.pairValue], tokens.drop 1⟩
    else some ⟨[], [.node false false, .pairValue], tokens⟩
  | .pairValue =>
    match tokens with
    | .value :: rest => nodeUnless [.comma, .flowSeqEnd] (.node false false) .pairEnd rest
    | _ => some ⟨[empty], [.pairEnd], tokens⟩
  | .pairEnd => some ⟨[mapEnd], [], tokens⟩
  | .flowEntries isFirst =>
    match tokens with
    | .flowMapEnd :: rest => some ⟨[mapEnd], [], rest⟩
    | .comma :: rest => if isFirst then none else some (flowEntry rest)
    | _ => if isFirst then some (flowEntry tokens) else none
  | .flowValue =>
    match tokens with
    | .value :: rest =>
      nodeUnless [.comma, .flowMapEnd] (.node false false) (.flowEntries false) rest
    | _ => some ⟨[empty], [.flowEntries false], tokens⟩
  | .noValue => some ⟨[empty], [.flowEntries false], tokens⟩

/-- Work on goals until there is none. The events are collected last one first. -/
def run (handles : Handles) : Nat → List Goal → List Event → List Token →
    Option (List Event × List Token)
  | _, [], events, tokens => some (events.reverse, tokens)
  | 0, _ :: _, _, _ => none
  | fuel + 1, goal :: goals, events, tokens => do
    let s ← step? handles goal tokens
    run handles fuel (s.goals ++ goals) (s.events.reverse ++ events) s.tokens

/-! ## Documents -/

/-- Whether there is nothing but marks of the end of a document. -/
def isEnd : List Token → Bool
  | .documentEnd :: rest => isEnd rest
  | [.streamEnd] => true
  | _ => false

/-- The content of a document; nothing else may follow it. Every token takes a bounded number of
steps. -/
def content? (handles : Handles) (tokens : List Token) : Option (List Event) := do
  let (events, rest) ← run handles (8 * tokens.length + 8) [.node true false] [] tokens
  if isEnd rest then some events else none

/-- The events of the only document of a stream. There is none if the stream is empty. -/
def ofTokens? (tokens : List Token) : Option (List Event) :=
  match tokens with
  | [.streamEnd] => some []
  | t :: _ =>
    match t with
    | .version _ _ | .tagPrefix _ _ | .documentStart => do
      let (handles, tokens) ← directives? false [] tokens
      match tokens with
      | .documentStart :: rest =>
        match rest with
        | .version _ _ :: _ | .tagPrefix _ _ :: _ | .documentStart :: _ => none
        | _ =>
          if isEnd rest then some [empty] else content? (handles ++ standardHandles) rest
      | _ => none
    | _ => content? standardHandles tokens
  | [] => none

end Event
end InstallManifest.Yaml
