/-!
White space of every script. The ASCII part is the blank and the controls from tabulation to
carriage return.
-/
namespace InstallManifest.Text

/-- Ranges of code points of white space, with both ends, in ascending order. -/
def whitespaceRanges : List (Nat × Nat) := [
  (0x9, 0xd), (0x20, 0x20), (0x85, 0x85), (0xa0, 0xa0), (0x1680, 0x1680), (0x2000, 0x200a),
  (0x2028, 0x2029), (0x202f, 0x202f), (0x205f, 0x205f), (0x3000, 0x3000)]

def isWhitespace (c : Char) : Bool :=
  whitespaceRanges.any fun (low, high) => low ≤ c.toNat && c.toNat ≤ high

/-- The characters from the first one on that is not white space. -/
def skipWhitespace (cs : List Char) : List Char := cs.dropWhile isWhitespace

end InstallManifest.Text
