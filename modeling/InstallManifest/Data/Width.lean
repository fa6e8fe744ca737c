/-!
The numbers that fit a width in bits, with a sign and without one.
-/
namespace InstallManifest.Width

/-- The count of the numbers of a width. -/
def count (bits : Nat) : Nat := Nat.pow 2 bits

/-- Whether a number fits a width without a sign. -/
def isUnsigned (bits : Nat) (n : Int) : Bool := 0 ≤ n && n < count bits

/-- Whether a number fits a width of which one bit is the sign. -/
def isSigned (bits : Nat) (n : Int) : Bool := -count (bits - 1) ≤ n && n < count (bits - 1)

end InstallManifest.Width
