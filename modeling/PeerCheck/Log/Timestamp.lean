import PeerCheck.Log.Template.Fault
import PeerCheck.Number.Binary64
import PeerCheck.Text.Digit

/-!
# Timestamps

A time in seconds since 1970 is rounded to microseconds, a half to the even neighbour, and cut to
the second. Its written form is the date and the time of day in UTC.
-/

namespace PeerCheck.Log

open PeerCheck.Number PeerCheck.Text

/-- The microseconds in a fraction of a second, given in units. -/
def microseconds (units : Nat) : Nat :=
  match Binary64.ofRatio false (units * 1000000) Binary64.unitsPerOne with
  | .finite _ u => roundDiv u Binary64.unitsPerOne
  | _ => 0

def wholeSecond (negative : Bool) (units : Nat) : Int :=
  let seconds := units / Binary64.unitsPerOne
  let micros := microseconds (units % Binary64.unitsPerOne)
  if negative then
    if micros = 0 then -seconds else -seconds - 1
  else if micros = 1000000 then seconds + 1 else seconds

/-- Days from the first of March of year 0 to the first of January 1970. -/
def epochDays : Int := 719468

/-- Year, month and day of a day counted from 1970, by eras of 400 years that begin in March. -/
def civilDate (day : Int) : Int × Nat × Nat :=
  let day := day + epochDays
  let era := day.fdiv 146097
  let dayOfEra := (day.fmod 146097).toNat
  let yearOfEra := (dayOfEra - dayOfEra / 1460 + dayOfEra / 36524 - dayOfEra / 146096) / 365
  let dayOfYear := dayOfEra - (365 * yearOfEra + yearOfEra / 4 - yearOfEra / 100)
  let shifted := (5 * dayOfYear + 2) / 153
  let dayOfMonth := dayOfYear - (153 * shifted + 2) / 5 + 1
  let month := if shifted < 10 then shifted + 3 else shifted - 9
  let year := yearOfEra + era * 400
  (if month ≤ 2 then year + 1 else year, month, dayOfMonth)

def twoDigits (n : Nat) : List Char := padLeft 2 '0' (decimal n)

/-- The written form of a second that falls in a year of four digits. -/
def secondText (second : Int) : Except TimeFault String :=
  let (year, month, day) := civilDate (second.fdiv 86400)
  let time := (second.fmod 86400).toNat
  if year - 1900 < -0x80000000 ∨ 0x80000000 ≤ year - 1900 then .error .beyondYears
  else if year < 1 ∨ 9999 < year then .error (.yearOutOfRange year)
  else
    let date := padLeft 4 '0' (decimalInt year) ++ '-' :: twoDigits month ++ '-' :: twoDigits day
    let clock :=
      twoDigits (time / 3600) ++ ':' :: twoDigits (time / 60 % 60) ++ ':' :: twoDigits (time % 60)
    .ok (String.ofList (date ++ 'T' :: clock ++ ['Z']))

def timestamp : Binary64 → Except TimeFault String
  | .nan => .error .notANumber
  | .infinite _ => .error .beyondSeconds
  | .finite negative units =>
    let second := wholeSecond negative units
    if second < -0x8000000000000000 ∨ 0x8000000000000000 ≤ second then .error .beyondSeconds
    else secondText second

end PeerCheck.Log
