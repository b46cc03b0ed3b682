import PeerCheck.Text.CodeRange

/-!
# Blanks

The Unicode white space characters, and trimming them off both ends of a text. Four ASCII
separators (1C to 1F) count as white space here, but not around a written number.
-/

namespace PeerCheck.Text

def blankRanges : List CodeRange := [
  ⟨0x9, 0xD⟩, ⟨0x1C, 0x20⟩, ⟨0x85, 0x85⟩, ⟨0xA0, 0xA0⟩, ⟨0x1680, 0x1680⟩, ⟨0x2000, 0x200A⟩,
  ⟨0x2028, 0x2029⟩, ⟨0x202F, 0x202F⟩, ⟨0x205F, 0x205F⟩, ⟨0x3000, 0x3000⟩]

def isBlank (c : Char) : Bool := CodeRange.anyCovers blankRanges c

/-- White space that may stand around a written number. -/
def isNumberBlank (c : Char) : Bool := isBlank c && !(0x1C ≤ c.toNat && c.toNat ≤ 0x1F)

def trimLeft (p : Char → Bool) (cs : List Char) : List Char := cs.dropWhile p

def trimRight (p : Char → Bool) (cs : List Char) : List Char := (cs.reverse.dropWhile p).reverse

/-- Drops the characters of class `p` at both ends. -/
def trimBy (p : Char → Bool) (cs : List Char) : List Char := trimRight p (trimLeft p cs)

def trim (cs : List Char) : List Char := trimBy isBlank cs

end PeerCheck.Text
