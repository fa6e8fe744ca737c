import InstallManifest.Text.Invisible
import InstallManifest.Text.Numeral

/-!
Text in double quotes, for messages. A quote and a backslash get a backslash, the usual controls
their letter, and other characters without a glyph their code point, so that two texts that look
alike are told apart.
-/
namespace InstallManifest.Text.Quoted

/-- One character of a quoted text. -/
def encodeChar (c : Char) : List Char :=
  if c = '"' then ['\\', '"']
  else if c = '\\' then ['\\', '\\']
  else if c = '\n' then ['\\', 'n']
  else if c = '\r' then ['\\', 'r']
  else if c = '\t' then ['\\', 't']
  else if c = '\x00' then ['\\', '0']
  else if isInvisible c then
    '\\' :: 'u' :: '\x7b' :: Numeral.digits 16 c.toNat ++ ['\x7d']
  else [c]

/-- A text between double quotes. -/
def quote (s : String) : String :=
  String.ofList ('"' :: s.toList.flatMap encodeChar ++ ['"'])

end InstallManifest.Text.Quoted
