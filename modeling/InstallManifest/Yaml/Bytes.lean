import InstallManifest.Yaml.Document.Place
import InstallManifest.Yaml.Document.Value
import InstallManifest.Yaml.Printer

/-!
Values and records as bytes, which is how documents are kept in files.
-/
namespace InstallManifest.Yaml

/-- Whether bytes hold nothing but blanks and line breaks. -/
def isBlankBytes (bytes : ByteArray) : Bool :=
  bytes.toList.all fun b => b ∈ [0x20, 0x09, 0x0a, 0x0c, 0x0d]

namespace Value

/-- The value that bytes hold. -/
def ofBytes (bytes : ByteArray) : Except ReadError Value := do (← Document.ofBytes bytes).value

/-- A value as bytes. -/
def toBytes (v : Value) : Except WriteError ByteArray := v.text.map String.toUTF8

end Value

/-- The record that bytes hold, read straight from their document. -/
def Record.ofBytes {α : Type} (r : Record Place α) (bytes : ByteArray) : Except ReadError α := do
  r.read (.root (← Document.ofBytes bytes))

end InstallManifest.Yaml
