/-!
# Powers and rounding

The powers of the two bases, and a quotient of naturals rounded to the nearest whole number, a half
to the even neighbour.
-/

namespace PeerCheck.Number

def twoTo (n : Nat) : Nat := Nat.pow 2 n

def tenTo (n : Nat) : Nat := Nat.pow 10 n

def roundDiv (n d : Nat) : Nat :=
  let q := n / d
  let r := n % d
  if 2 * r > d ∨ (2 * r = d ∧ q % 2 = 1) then q + 1 else q

end PeerCheck.Number
