import PeerCheck.Text.Printable.Table

/-!
# Printable characters
-/

namespace PeerCheck.Text

/-- Whether the character is shown as itself in a quoted text. -/
def isPrintable (c : Char) : Bool :=
  if c.toNat < 0x7F then 0x20 ≤ c.toNat else !CodeRange.anyCovers unprintableRanges c

end PeerCheck.Text
