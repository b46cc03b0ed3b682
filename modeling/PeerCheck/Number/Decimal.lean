import PeerCheck.Number.Binary64
import PeerCheck.Text.Digit

/-!
# Decimal forms of binary values

The decimal digits of a binary value, and the two ways to lay digits out: positional and
scientific. `shortest` has the fewest digits that read back as the value, and of those the nearest;
`toPlaces` and `toDigits` round to a given number of places or of significant digits, a half to
the even neighbour.
-/

namespace PeerCheck.Number

open PeerCheck.Text

/-- A number `d.ddd… * 10 ^ exponent`, by its significant digits. -/
structure Scientific where
  digits : List Char
  exponent : Int
  deriving DecidableEq, Repr

namespace Scientific

/-- `digits` whole digits have the value `n`, of which the last counts `10 ^ place`. -/
def ofNat (n : Nat) (place : Int) : Scientific :=
  let ds := decimal n
  ⟨ds, place + ds.length - 1⟩

def dropTrailingZeros (s : Scientific) : Scientific :=
  let kept := (s.digits.reverse.dropWhile (· == '0')).reverse
  { s with digits := if kept.isEmpty then ['0'] else kept }

def split (s : Scientific) : List Char × List Char :=
  if s.exponent < 0 then
    (['0'], List.replicate (-s.exponent - 1).toNat '0' ++ s.digits)
  else
    let whole := s.exponent.toNat + 1
    (padRight whole '0' (s.digits.take whole), s.digits.drop whole)

def exponentText (e : Int) : List Char :=
  (if e < 0 then '-' else '+') :: padLeft 2 '0' (decimal e.natAbs)

/-- Mantissa with the point after the first digit; no point where nothing follows it, unless
`point` asks for one. -/
def scientificText (point : Bool) (mark : Char) (s : Scientific) : List Char :=
  let fraction := s.digits.drop 1
  let tail := if fraction.isEmpty && !point then [] else '.' :: fraction
  s.digits.take 1 ++ tail ++ mark :: exponentText s.exponent

end Scientific

namespace Binary64

/-- The exponent of the leading decimal digit of a positive number of units. -/
def decimalExponent (units : Nat) : Int :=
  ((decimal (units * tenTo 400 / unitsPerOne)).length : Int) - 401

def overPlace (units : Nat) (place : Int) : Nat × Nat :=
  if 0 ≤ place then (units, unitsPerOne * tenTo place.toNat)
  else (units * tenTo (-place).toNat, unitsPerOne)

/-- Whether `c * 10 ^ place` is a decimal that reads back as `units`: it lies in the interval that
rounds to it, whose ends belong to it when the significand is even. Below a power of two the
spacing halves. All is compared in quarters of a unit. -/
def readsBack (units c : Nat) (place : Int) : Bool :=
  let gap := spacing units
  let below := if units = twoTo (Nat.log2 units) ∧ 1 < gap then gap else 2 * gap
  let low := 4 * units - below
  let high := 4 * units + 2 * gap
  let closed := units / gap % 2 == 0
  let (scaled, unit) :=
    if 0 ≤ place then (4 * c * tenTo place.toNat * unitsPerOne, 1)
    else (4 * c * unitsPerOne, tenTo (-place).toNat)
  let (low, high) := (low * unit, high * unit)
  if closed then low ≤ scaled && scaled ≤ high else low < scaled && scaled < high

/-- The nearer of the two neighbours of `units` on the grid of `10 ^ place` that read back. -/
def gridHit? (units : Nat) (place : Int) : Option Nat :=
  let (n, d) := overPlace units place
  let down := n / d
  let near := roundDiv n d
  let other := if near = down then down + 1 else down
  if readsBack units near place then some near
  else if readsBack units other place then some other
  else none

def toPlaces (units places : Nat) : List Char × List Char :=
  let ds := padLeft (places + 1) '0' (decimal (roundDiv (units * tenTo places) unitsPerOne))
  (ds.take (ds.length - places), ds.drop (ds.length - places))

/-- Rounded to so many significant digits (at least one). -/
def toDigits (units count : Nat) : Scientific :=
  if units = 0 then ⟨List.replicate count '0', 0⟩
  else
    let lead := decimalExponent units
    let place := lead - count + 1
    let (n, d) := overPlace units place
    let s := Scientific.ofNat (roundDiv n d) place
    { s with digits := s.digits.take count }

/-- The fewest significant digits of a number of units that read back: the first grid with a hit,
from one digit on. Seventeen always suffice. -/
def shortest (units : Nat) : Scientific :=
  if units = 0 then ⟨['0'], 0⟩
  else
    let lead := decimalExponent units
    let hit := (List.range 17).findSome? fun (k : Nat) =>
      (gridHit? units (lead - k)).map (Scientific.ofNat · (lead - k))
    (hit.getD (toDigits units 17)).dropTrailingZeros

/-- The text of a value: the fewest digits that read back, positional with at least one place from
`0.0001` up to below `10 ^ 16`, scientific outside. -/
def text : Binary64 → List Char
  | nan => "nan".toList
  | infinite n => (if n then "-inf" else "inf").toList
  | finite n u =>
    let s := shortest u
    let body :=
      if -4 ≤ s.exponent ∧ s.exponent < 16 then
        let (whole, fraction) := s.split
        whole ++ '.' :: (if fraction.isEmpty then ['0'] else fraction)
      else s.scientificText false 'e'
    if n then '-' :: body else body

end Binary64

end PeerCheck.Number
