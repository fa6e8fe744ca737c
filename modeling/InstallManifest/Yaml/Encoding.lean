import InstallManifest.Yaml.Character

/-!
From bytes to the characters of a document. Documents are in UTF-8.
-/
namespace InstallManifest.Yaml.Encoding

/-- The characters of a document, if the bytes are text and every character is allowed. -/
def decode (bytes : ByteArray) : Option (List Char) :=
  ((String.fromUTF8? bytes).map String.toList).filter fun cs => cs.all isAllowed

end InstallManifest.Yaml.Encoding
