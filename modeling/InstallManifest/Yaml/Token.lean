/-!
The tokens of a document. Indentation is made explicit: a block collection starts with a token of
its own and ends with `blockEnd`.
-/
namespace InstallManifest.Yaml

/-- How a scalar is written, as far as it matters to its meaning. -/
inductive Presentation where
  | plain
  | literal
  /-- In quotes, or folded. -/
  | other
deriving DecidableEq, Repr

/-- The bytes of a tag or of a part of it. -/
abbrev TagBytes := List UInt8

inductive Token where
  | version (major minor : Nat)
  /-- What a handle of tags stands for. -/
  | tagPrefix (handle : String) (text : TagBytes)
  | documentStart
  | documentEnd
  | blockSeq
  | blockMap
  | blockEnd
  | flowSeq
  | flowSeqEnd
  | flowMap
  | flowMapEnd
  /-- The dash in front of an item. -/
  | dash
  | comma
  | key
  | value
  /-- An alias. -/
  | reference (name : String)
  | anchor (name : String)
  /-- A tag; the handle is empty if the rest is all of it. -/
  | tag (handle : String) (suffix : TagBytes)
  | scalar (text : String) (presentation : Presentation)
  | streamEnd
deriving DecidableEq, Repr

end InstallManifest.Yaml
