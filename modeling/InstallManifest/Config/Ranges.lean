import InstallManifest.Yaml.Record

/-!
Network ranges as they stand in documents: as text, not yet parsed.
-/
namespace InstallManifest
open Yaml

/-- A range that pods get addresses from, and the prefix length of the part that a node gets. -/
structure ClusterRange where
  cidr : String
  hostPrefix : Int32
deriving DecidableEq, Repr

/-- A range that machines live in. -/
structure MachineRange where
  cidr : String
deriving DecidableEq, Repr

variable {σ : Type} [Source σ]

/-- The key for the text of a range. Whether it may be missing depends on the document. -/
def rangeField {α : Type} (isRequired : Bool) (get : α → String) (set : String → α → α) :
    Field σ α :=
  { Field.always "cidr" get set .string with isRequired }

def ClusterRange.record (isRequired : Bool) : Record σ ClusterRange where
  name := "struct ClusterNetworkEntry"
  blank := ⟨"", 0⟩
  isRepeatable := false
  fields := [
    rangeField isRequired (·.cidr) (fun s x => { x with cidr := s }),
    .always "hostPrefix" (·.hostPrefix) (fun n x => { x with hostPrefix := n }) .int32]

def MachineRange.record (isRequired : Bool) : Record σ MachineRange where
  name := "struct MachineNetworkEntry"
  blank := ⟨""⟩
  isRepeatable := false
  fields := [rangeField isRequired (·.cidr) (fun s x => { x with cidr := s })]

end InstallManifest
