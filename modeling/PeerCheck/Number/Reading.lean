import PeerCheck.Number.Binary64
import PeerCheck.Text.Blank
import PeerCheck.Text.Digit
import PeerCheck.Text.Spelling

/-!
# Reading numbers

A written number may stand in white space, take digits of any script, and have single underscores
between its digits. `readFloat?` also takes a fraction, an exponent, and the words for infinity
and NaN in any case.
-/

namespace PeerCheck.Number

open PeerCheck.Text

/-- Digits of any script become ASCII digits. -/
def plainDigits (cs : List Char) : List Char :=
  cs.map fun c => match decimalValue? c with
    | some v => digitChar v
    | none => c

/-- Drops the underscores, each of which must stand between two digits; `before` tells whether a
digit precedes. -/
def dropUnderscores? (before : Bool) : List Char → Option (List Char)
  | [] => some []
  | '_' :: cs => if before && (cs.head?.any Char.isDigit) then dropUnderscores? false cs else none
  | c :: cs => (dropUnderscores? c.isDigit cs).map (c :: ·)

/-- The characters of a written number, in plain form. -/
def normalize? (cs : List Char) : Option (List Char) :=
  dropUnderscores? false (plainDigits (trimBy isNumberBlank cs))

/-- Takes a sign off: whether it is a minus, and the rest. -/
def takeSign : List Char → Bool × List Char
  | '-' :: cs => (true, cs)
  | '+' :: cs => (false, cs)
  | cs => (false, cs)

def digitsValue (ds : List Char) : Nat := ds.foldl (fun n d => n * 10 + (d.toNat - 0x30)) 0

def takeDigits (cs : List Char) : List Char × List Char :=
  (cs.takeWhile Char.isDigit, cs.dropWhile Char.isDigit)

def maxIntDigits : Nat := 4300

def readInt? (cs : List Char) : Option Int := do
  let (negative, ds) := takeSign (← normalize? cs)
  if ds.isEmpty || !ds.all Char.isDigit || ds.length > maxIntDigits then none
  else
    let n : Int := digitsValue ds
    some (if negative then -n else n)

def readExponent? : List Char → Option Int
  | [] => some 0
  | c :: cs =>
    if c = 'e' ∨ c = 'E' then
      let (negative, ds) := takeSign cs
      if ds.isEmpty || !ds.all Char.isDigit then none
      else some (if negative then -(digitsValue ds : Int) else digitsValue ds)
    else none

/-- Digits, fraction and exponent, without a sign. -/
def readUnsigned? (negative : Bool) (cs : List Char) : Option Binary64 := do
  let (whole, rest) := takeDigits cs
  let (fraction, rest) := match rest with
    | '.' :: rest => takeDigits rest
    | _ => ([], rest)
  if whole.isEmpty && fraction.isEmpty then none
  else
    let e ← readExponent? rest
    some (.ofDecimal negative (digitsValue (whole ++ fraction)) (e - fraction.length))

def readFloat? (cs : List Char) : Option Binary64 := do
  let (negative, body) := takeSign (← normalize? cs)
  match String.ofList (body.map Char.toLower) with
  | "inf" | "infinity" => some (.infinite negative)
  | "nan" => some .nan
  | _ => readUnsigned? negative body

/-- The number that a text writes; a broken one writes none. -/
def floatIn? : Spelling → Option Binary64
  | .sound s => readFloat? s.toList
  | .broken _ => none

end PeerCheck.Number
