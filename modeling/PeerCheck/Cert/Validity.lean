import PeerCheck.Cert.Der

/-!
# Validity

The two ends of a validity are times to the second in UTC: a year of two digits, or of four in the
general form, then month, day, hour, minute and second of two digits each, and a `Z`. The date has
to be one of the calendar; how the two ends lie to each other is not looked at.
-/

namespace PeerCheck.Cert.Validity

open Der

def pair? (a b : UInt8) : Option Nat :=
  if 0x30 ≤ a ∧ a ≤ 0x39 ∧ 0x30 ≤ b ∧ b ≤ 0x39 then
    some ((a.toNat - 0x30) * 10 + (b.toNat - 0x30))
  else none

/-- Numbers of two decimal digits each, up to a closing `Z`. -/
def pairs? : Bytes → Option (List Nat)
  | [0x5A] => some []
  | a :: b :: rest => do
    let n ← pair? a b
    let ns ← pairs? rest
    some (n :: ns)
  | _ => none

def isLeapYear (year : Nat) : Bool := year % 4 = 0 && (year % 100 != 0 || year % 400 = 0)

def daysInMonth (year month : Nat) : Nat :=
  if month = 2 then (if isLeapYear year then 29 else 28)
  else if [4, 6, 9, 11].contains month then 30 else 31

/-- Whether the numbers are a date of a year and a time of day. -/
def isMoment (year : Nat) : List Nat → Bool
  | [month, day, hour, minute, second] =>
    1 ≤ month && month ≤ 12 && 1 ≤ day && day ≤ daysInMonth year month &&
      hour ≤ 23 && minute ≤ 59 && second ≤ 59
  | _ => false

def fullYear (short : Nat) : Nat := if 50 ≤ short then 1900 + short else 2000 + short

def isTime (e : Element) : Bool :=
  match pairs? e.content with
  | some (a :: b :: rest) =>
    if e.tag = utcTime then isMoment (fullYear a) (b :: rest)
    else e.tag = generalTime && isMoment (100 * a + b) rest
  | _ => false

def isWellFormed (content : Bytes) : Bool :=
  match elements? content with
  | some [a, b] => isTime a && isTime b
  | _ => false

end PeerCheck.Cert.Validity
