import InstallManifest.Manifest.Json
import InstallManifest.Yaml.Record

/-!
Metadata that every object of a cluster carries. Its keys are written in alphabetical order, and of
a key that is repeated the last one counts.
-/
namespace InstallManifest
open Yaml

/-- An object that an object belongs to. -/
structure OwnerReference where
  apiVersion : String
  blockOwnerDeletion : Option Bool
  controller : Option Bool
  kind : String
  name : String
  uid : String
deriving DecidableEq

/-- Which fields of an object a workflow has set. -/
structure ManagedFields where
  apiVersion : Option String
  fieldsType : Option String
  fieldsV1 : Option Json.Payload
  manager : Option String
  operation : Option String
  subresource : Option String
  time : Option Time.Timestamp

structure ObjectMeta where
  annotations : Option (SortedMap String)
  creationTimestamp : Option Time.Timestamp
  deletionGracePeriodSeconds : Option Int64
  deletionTimestamp : Option Time.Timestamp
  finalizers : Option (List String)
  generateName : Option String
  generation : Option Int64
  labels : Option (SortedMap String)
  managedFields : Option (List ManagedFields)
  name : Option String
  namespaceName : Option String
  ownerReferences : Option (List OwnerReference)
  resourceVersion : Option String
  selfLink : Option String
  uid : Option String

namespace OwnerReference

def blank : OwnerReference := ⟨"", none, none, "", "", ""⟩

/-- A text that is always written, and empty if it is null. -/
def textField (name : String) (get : OwnerReference → String)
    (set : String → OwnerReference → OwnerReference) : Field Value OwnerReference :=
  { Field.optional name (some ∘ get) (fun s x => set (s.getD "") x) .string with
    write := fun x => some (.string (get x)) }

def record : Record Value OwnerReference where
  name := "OwnerReference"
  blank := blank
  isRepeatable := true
  fields := [
    textField "apiVersion" (·.apiVersion) (fun s x => { x with apiVersion := s }),
    .optional "blockOwnerDeletion" (·.blockOwnerDeletion)
      (fun b x => { x with blockOwnerDeletion := b }) .bool,
    .optional "controller" (·.controller) (fun b x => { x with controller := b }) .bool,
    textField "kind" (·.kind) (fun s x => { x with kind := s }),
    textField "name" (·.name) (fun s x => { x with name := s }),
    textField "uid" (·.uid) (fun s x => { x with uid := s })]

end OwnerReference

namespace ManagedFields

def blank : ManagedFields := ⟨none, none, none, none, none, none, none⟩

def payload : Codec Value Json.Payload := ⟨fun p => p.json.toValue, Json.Payload.read⟩

def record : Record Value ManagedFields where
  name := "ManagedFieldsEntry"
  blank := blank
  isRepeatable := true
  fields := [
    .optional "apiVersion" (·.apiVersion) (fun s x => { x with apiVersion := s }) .string,
    .optional "fieldsType" (·.fieldsType) (fun s x => { x with fieldsType := s }) .string,
    .optional "fieldsV1" (·.fieldsV1) (fun p x => { x with fieldsV1 := p }) payload,
    .optional "manager" (·.manager) (fun s x => { x with manager := s }) .string,
    .optional "operation" (·.operation) (fun s x => { x with operation := s }) .string,
    .optional "subresource" (·.subresource) (fun s x => { x with subresource := s }) .string,
    .optional "time" (·.time) (fun t x => { x with time := t }) .time]

/-- Equality up to the sign of zero in free-form data. -/
def same (x y : ManagedFields) : Bool :=
  x.apiVersion == y.apiVersion && x.fieldsType == y.fieldsType &&
    (match x.fieldsV1, y.fieldsV1 with
      | none, none => true
      | some p, some q => p.same q
      | _, _ => false) &&
    x.manager == y.manager && x.operation == y.operation && x.subresource == y.subresource &&
    x.time == y.time

end ManagedFields

namespace ObjectMeta

def blank : ObjectMeta :=
  ⟨none, none, none, none, none, none, none, none, none, none, none, none, none, none, none⟩

/-- Texts under free-form keys. -/
def texts : Codec Value (SortedMap String) where
  write m := .map (m.entries.map fun (k, s) => (.string k, .string s))
  read v := do
    let entries ← v.readEntries "a map"
    let pairs ← entries.mapM fun (k, s) => do
      return (← k.readString, ← s.readString)
    return .ofList pairs

def record : Record Value ObjectMeta where
  name := "ObjectMeta"
  blank := blank
  isRepeatable := true
  fields := [
    .optional "annotations" (·.annotations) (fun m x => { x with annotations := m }) texts,
    .optional "creationTimestamp" (·.creationTimestamp)
      (fun t x => { x with creationTimestamp := t }) .time,
    .optional "deletionGracePeriodSeconds" (·.deletionGracePeriodSeconds)
      (fun n x => { x with deletionGracePeriodSeconds := n }) .int64,
    .optional "deletionTimestamp" (·.deletionTimestamp)
      (fun t x => { x with deletionTimestamp := t }) .time,
    .optional "finalizers" (·.finalizers) (fun l x => { x with finalizers := l }) (.list .string),
    .optional "generateName" (·.generateName) (fun s x => { x with generateName := s }) .string,
    .optional "generation" (·.generation) (fun n x => { x with generation := n }) .int64,
    .optional "labels" (·.labels) (fun m x => { x with labels := m }) texts,
    .optional "managedFields" (·.managedFields) (fun l x => { x with managedFields := l })
      (.list ManagedFields.record.codec),
    .optional "name" (·.name) (fun s x => { x with name := s }) .string,
    .optional "namespace" (·.namespaceName) (fun s x => { x with namespaceName := s }) .string,
    .optional "ownerReferences" (·.ownerReferences) (fun l x => { x with ownerReferences := l })
      (.list OwnerReference.record.codec),
    .optional "resourceVersion" (·.resourceVersion)
      (fun s x => { x with resourceVersion := s }) .string,
    .optional "selfLink" (·.selfLink) (fun s x => { x with selfLink := s }) .string,
    .optional "uid" (·.uid) (fun s x => { x with uid := s }) .string]

/-- Equality up to the sign of zero in free-form data. -/
def same (x y : ObjectMeta) : Bool :=
  x.annotations == y.annotations && x.creationTimestamp == y.creationTimestamp &&
    x.deletionGracePeriodSeconds == y.deletionGracePeriodSeconds &&
    x.deletionTimestamp == y.deletionTimestamp && x.finalizers == y.finalizers &&
    x.generateName == y.generateName && x.generation == y.generation && x.labels == y.labels &&
    (match x.managedFields, y.managedFields with
      | none, none => true
      | some l, some m => l.length == m.length && (l.zip m).all fun (a, b) => a.same b
      | _, _ => false) &&
    x.name == y.name && x.namespaceName == y.namespaceName &&
    x.ownerReferences == y.ownerReferences &&
    x.resourceVersion == y.resourceVersion && x.selfLink == y.selfLink && x.uid == y.uid

end ObjectMeta
end InstallManifest
