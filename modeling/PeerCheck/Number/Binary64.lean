import PeerCheck.Number.Rounding

/-!
# Binary floating point

The 64-bit binary format, exactly. Every finite value is a whole multiple of the smallest one,
`2 ^ -1074`, so a finite value is a sign and a natural number of these units; of the naturals,
those with at most 53 significant bits below `2 ^ 2098` occur. `ofRatio` rounds a quotient to the
nearest value, a half to the even neighbour, and to infinity past the largest.
-/

namespace PeerCheck.Number

inductive Binary64
  | nan
  | infinite (negative : Bool)
  | finite (negative : Bool) (units : Nat)
  deriving DecidableEq, Repr, Inhabited

namespace Binary64

def unitsPerOne : Nat := twoTo 1074

def unitsLimit : Nat := twoTo 2098

/-- The distance between neighbouring values of the size of `units`. -/
def spacing (units : Nat) : Nat := twoTo (Nat.log2 units + 1 - 53)

def ofRatio (negative : Bool) (num den : Nat) : Binary64 :=
  let gap := spacing (num * unitsPerOne / den)
  let units := roundDiv (num * unitsPerOne) (den * gap) * gap
  if units < unitsLimit then finite negative units else infinite negative

def ofNat (n : Nat) : Binary64 := ofRatio false n 1

/-- The value nearest to a whole number, if it is not past the largest finite one. -/
def ofInt? (n : Int) : Option Binary64 :=
  match ofRatio (n < 0) n.natAbs 1 with
  | infinite _ => none
  | x => some x

/-- The value of `m * 10 ^ e`; the bounds on the exponent only save computing what is certain to
overflow or to vanish. -/
def ofDecimal (negative : Bool) (m : Nat) (e : Int) : Binary64 :=
  if m = 0 then finite negative 0
  else
    let size := (Nat.log2 m : Int) * 30103 / 100000 + e
    if size > 320 then infinite negative
    else if size < -340 then finite negative 0
    else if 0 ≤ e then ofRatio negative (m * tenTo e.toNat) 1
    else ofRatio negative m (tenTo (-e).toNat)

def isNegative : Binary64 → Bool
  | nan => false
  | infinite n => n
  | finite n _ => n

def isZero : Binary64 → Bool
  | finite _ 0 => true
  | _ => false

def signed (negative : Bool) (units : Nat) : Int := if negative then -units else units

/-- The order of the reals with both infinities; NaN is below nothing and above nothing. -/
def lt : Binary64 → Binary64 → Bool
  | nan, _ => false
  | _, nan => false
  | infinite m, infinite n => m && !n
  | infinite m, finite .. => m
  | finite .., infinite n => !n
  | finite m a, finite n b => signed m a < signed n b

/-- Equality of values: both zeros are equal, and NaN equals nothing. -/
def eq : Binary64 → Binary64 → Bool
  | infinite m, infinite n => m == n
  | finite m a, finite n b => signed m a == signed n b
  | _, _ => false

def le (x y : Binary64) : Bool := lt x y || eq x y

def zero : Binary64 := finite false 0

/-- The whole number towards zero of a finite value. -/
def truncate? : Binary64 → Option Int
  | finite n u => some (signed n (u / unitsPerOne))
  | _ => none

end Binary64

end PeerCheck.Number
