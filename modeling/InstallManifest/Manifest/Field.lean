/-!
Validation errors that are addressed by field. A check records every problem it finds; whoever
needs a single error takes all of them as one, which exists only if there is a problem.
-/
namespace InstallManifest

/-- The names from the root of a document to a field. -/
structure FieldPath where
  segments : List String
deriving DecidableEq, Repr

namespace FieldPath

def text (p : FieldPath) : String := String.intercalate "." p.segments

def networkType : FieldPath := ⟨["spec", "networking", "networkType"]⟩

def clusterNetwork : FieldPath := ⟨["spec", "networking", "clusterNetwork"]⟩

def serviceNetwork : FieldPath := ⟨["spec", "networking", "serviceNetwork"]⟩

end FieldPath

inductive FieldErrorKind where
  /-- A value is missing or cannot be used. -/
  | required
deriving DecidableEq, Repr

def FieldErrorKind.text : FieldErrorKind → String
  | required => "Required value"

structure FieldError where
  kind : FieldErrorKind
  field : FieldPath
  detail : String
deriving DecidableEq, Repr

def FieldError.text (e : FieldError) : String :=
  e.field.text ++ ": " ++ e.kind.text ++ ": " ++ e.detail

/-- Errors in the order in which they were found. -/
abbrev ErrorList := List FieldError

/-- One or more errors. -/
structure AggregateError where
  first : FieldError
  rest : List FieldError
deriving DecidableEq, Repr

namespace ErrorList

/-- The number of errors at a field. -/
def countAt (field : FieldPath) (errors : ErrorList) : Nat := errors.countP fun e => e.field = field

/-- All errors as one, or success if there is none. -/
def toResult : ErrorList → Except AggregateError Unit
  | [] => .ok ()
  | e :: es => .error ⟨e, es⟩

end ErrorList

namespace AggregateError

def errors (a : AggregateError) : ErrorList := a.first :: a.rest

/-- A single error is shown as itself, several are shown in brackets. -/
def text (a : AggregateError) : String :=
  if a.rest.isEmpty then a.first.text
  else "[" ++ String.intercalate ", " (a.errors.map FieldError.text) ++ "]"

end AggregateError
end InstallManifest
