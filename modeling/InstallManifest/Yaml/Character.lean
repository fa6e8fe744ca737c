/-!
The classes of characters that documents are made of.
-/
namespace InstallManifest.Yaml

/-- The characters that end a line: line feed, carriage return, next line, and the separators of
lines and of paragraphs. -/
def isBreak (c : Char) : Bool := c ∈ ['\n', '\r', '\u0085', '\u2028', '\u2029']

/-- The blanks within a line. -/
def isBlank (c : Char) : Bool := c == ' ' || c == '\t'

def isBlankOrBreak (c : Char) : Bool := isBlank c || isBreak c

/-- The characters of directive names, tag handles and anchors. -/
def isWordChar (c : Char) : Bool := c.isAlphanum || c == '_' || c == '-'

/-- The characters that can be written as they are: all but controls other than the line feed, the
byte order mark and the two code points above the private use area that are not characters. -/
def isPrintable (c : Char) : Bool :=
  c == '\n' || 0x20 ≤ c.toNat && c.toNat < 0x7f ||
    0xa0 ≤ c.toNat && c.toNat ∉ [0xfeff, 0xfffe, 0xffff]

/-- The characters that can stand in a document: all but controls other than tabulation and the
line breaks, and the two code points that are not characters. -/
def isAllowed (c : Char) : Bool :=
  c ∈ ['\t', '\n', '\r', '\u0085'] || 0x20 ≤ c.toNat && c.toNat < 0x7f ||
    0xa0 ≤ c.toNat && c.toNat ∉ [0xfffe, 0xffff]

end InstallManifest.Yaml
