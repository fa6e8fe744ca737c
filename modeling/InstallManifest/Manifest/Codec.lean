import InstallManifest.Config.ParseMode
import InstallManifest.Manifest.Basic
import InstallManifest.Manifest.Error
import InstallManifest.Manifest.Keys
import InstallManifest.Yaml.Bytes

/-!
Manifests as bytes. A document that is empty or null is no manifest. In strict mode the keys that no
manifest has are an error; apart from that, both modes read the same.
-/
namespace InstallManifest.Manifest
open Yaml

/-- A manifest as the bytes of its document. -/
def encode (m : Manifest) : Except WriteError ByteArray := m.toValue.toBytes

/-- The manifest of a value, in a mode. -/
def decodeValue (mode : ParseMode) (v : Value) : Except DecodeError Manifest := do
  if v.same .null then .error .empty
  let m ← (ofValue v).mapError .unreadable
  let unknown := Keys.unknown [] v Keys.manifest
  if mode = .strict ∧ unknown ≠ [] then .error (.unknownKeys unknown)
  return m

/-- The manifest that bytes hold. -/
def decode (mode : ParseMode) (bytes : ByteArray) : Except DecodeError Manifest := do
  if isBlankBytes bytes then .error .empty
  let v ← (Value.ofBytes bytes).mapError .unreadable
  decodeValue mode v

end InstallManifest.Manifest
