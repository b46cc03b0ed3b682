/-!
# Ranges of code points

Character classes are lists of closed ranges in ascending order.
-/

namespace PeerCheck.Text

/-- The code points from `first` to `last`. -/
structure CodeRange where
  first : Nat
  last : Nat
  deriving DecidableEq, Repr

namespace CodeRange

def covers (r : CodeRange) (code : Nat) : Bool := r.first ≤ code && code ≤ r.last

def anyCovers (ranges : List CodeRange) (c : Char) : Bool := ranges.any (·.covers c.toNat)

end CodeRange

end PeerCheck.Text
