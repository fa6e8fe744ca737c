import InstallManifest.Text.Quoted

/-!
How keys that a manifest does not define are treated.
-/
namespace InstallManifest

inductive ParseMode where
  /-- They are an error. -/
  | strict
  /-- They are ignored. -/
  | lenient
deriving DecidableEq, Repr

/-- A name that is not the name of a mode. -/
structure ParseModeError where
  name : String
deriving DecidableEq, Repr

namespace ParseMode

def all : List ParseMode := [strict, lenient]

def text : ParseMode → String
  | strict => "strict"
  | lenient => "lenient"

/-- The mode with a given name. -/
def ofText? (s : String) : Option ParseMode := all.find? fun m => m.text = s

def parse (s : String) : Except ParseModeError ParseMode :=
  match ofText? s with
  | some m => .ok m
  | none => .error ⟨s⟩

end ParseMode

def ParseModeError.message (e : ParseModeError) : String :=
  "unknown parse mode " ++ Text.Quoted.quote e.name ++ ", expected \"strict\" or \"lenient\""

end InstallManifest
