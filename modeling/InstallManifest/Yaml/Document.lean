import InstallManifest.Yaml.Encoding
import InstallManifest.Yaml.Event
import InstallManifest.Yaml.Node
import InstallManifest.Yaml.Token.Lexer

/-!
Documents: a root, and what the anchors name. Anchors are numbered: a name gets the number of
different names before it, and an alias refers to the number its name has where the alias stands. If
several anchors share a number, the last one of the document has it.
-/
namespace InstallManifest.Yaml

structure Document where
  /-- Nothing, if the stream is empty. -/
  root : Option Content
  /-- What anchors name, by number. The first entry of a number counts. -/
  anchored : List (Nat × Content)
  /-- The number of events. -/
  size : Nat

namespace Document

/-- The content of a node, wherever it stands. -/
def content (d : Document) : Node → Content
  | .reference number => (d.anchored.lookup number).getD .empty
  | .here content => content

/-! ## Composition -/

/-- A collection that is not finished: its parts, last one first. -/
inductive Opening where
  | seq (tag : Tag) (items : List Node)
  | map (tag : Tag) (entries : List (Node × Node))
  /-- A mapping with a key whose value is not there yet. -/
  | mapKey (tag : Tag) (entries : List (Node × Node)) (key : Node)

/-- The state of composition after some events. -/
structure Composer where
  /-- The number of events so far. -/
  position : Nat
  /-- The names of anchors with their numbers, each name once. -/
  names : List (String × Nat)
  /-- Where the nodes of anchors start, by number, last one first. -/
  starts : List (Nat × Nat)
  /-- The finished contents, by start. -/
  finished : List (Nat × Content)
  /-- The open collections with their starts, innermost first. -/
  openings : List (Nat × Opening)
  root : Option Content

namespace Composer

def initial : Composer := ⟨0, [], [], [], [], none⟩

/-- Take note of the anchor of a node that starts. -/
def anchor (c : Composer) : Option String → Composer
  | none => c
  | some name =>
    let number := c.names.length
    { c with
      names := (name, number) :: c.names.filter fun n => n.1 != name
      starts := (number, c.position) :: c.starts }

/-- Put a node where it belongs: into the innermost open collection, or at the root. -/
def place (c : Composer) (node : Node) : Composer :=
  match c.openings, node with
  | (start, .seq tag items) :: outer, _ =>
    { c with openings := (start, .seq tag (node :: items)) :: outer }
  | (start, .map tag entries) :: outer, _ =>
    { c with openings := (start, .mapKey tag entries node) :: outer }
  | (start, .mapKey tag entries key) :: outer, _ =>
    { c with openings := (start, .map tag ((key, node) :: entries)) :: outer }
  | [], .here content => { c with root := some content }
  | [], .reference _ => c

/-- Finish the node that starts at a position. -/
def finish (c : Composer) (start : Nat) (content : Content) : Composer :=
  { c with finished := (start, content) :: c.finished }.place (.here content)

def take? (c : Composer) : Event → Option Composer
  | .reference name => do return c.place (.reference (← c.names.lookup name))
  | .scalar p text presentation =>
    some ((c.anchor p.anchor).finish c.position (.scalar (.ofBytes? p.tag) text presentation))
  | .seqStart p =>
    let c := c.anchor p.anchor
    some { c with openings := (c.position, .seq (.ofBytes? p.tag) []) :: c.openings }
  | .mapStart p =>
    let c := c.anchor p.anchor
    some { c with openings := (c.position, .map (.ofBytes? p.tag) []) :: c.openings }
  | .seqEnd =>
    match c.openings with
    | (start, .seq tag items) :: outer =>
      some ({ c with openings := outer }.finish start (.seq tag items.reverse))
    | _ => none
  | .mapEnd =>
    match c.openings with
    | (start, .map tag entries) :: outer =>
      some ({ c with openings := outer }.finish start (.map tag entries.reverse))
    | _ => none

def run? (c : Composer) : List Event → Option Composer
  | [] => some c
  | e :: es => do run? { (← c.take? e) with position := c.position + 1 } es

end Composer

/-- The document of a list of events. There is none if an alias has no anchor in front of it. -/
def ofEvents? (events : List Event) : Option Document := do
  let c ← Composer.initial.run? events
  return {
    root := c.root
    anchored := c.starts.filterMap fun (number, start) =>
      (c.finished.lookup start).map fun content => (number, content)
    size := events.length }

/-- The only document that some bytes hold. -/
def ofBytes (bytes : ByteArray) : Except ReadError Document :=
  let document? := do
    let chars ← Encoding.decode bytes
    let tokens ← Token.ofChars? chars
    let events ← Event.ofTokens? tokens
    ofEvents? events
  match document? with
  | some d => .ok d
  | none => .error .malformed

end Document
end InstallManifest.Yaml
