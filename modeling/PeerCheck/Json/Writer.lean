import PeerCheck.Json.Value
import PeerCheck.Number.Decimal
import PeerCheck.Text.Digit
import PeerCheck.Text.Search

/-!
# Writing JSON

The text of a value in printable ASCII: on one line with a blank after each comma and colon, or
indented by two blanks a level. Characters beyond ASCII are escaped by their 16-bit code units, and
surrogates by themselves.
-/

namespace PeerCheck.Json

open PeerCheck.Text PeerCheck.Number

def unitEscape (n : Nat) : List Char := '\\' :: 'u' :: hexPadded 4 n

def escapedChar (c : Char) : List Char :=
  match c with
  | '\x22' => ['\\', '\x22']
  | '\\' => ['\\', '\\']
  | '\n' => ['\\', 'n']
  | '\r' => ['\\', 'r']
  | '\t' => ['\\', 't']
  | '\x0c' => ['\\', 'f']
  | '\x08' => ['\\', 'b']
  | _ =>
    let n := c.toNat
    if 0x20 ≤ n ∧ n < 0x7F then [c]
    else if n < 0x10000 then unitEscape n
    else unitEscape (0xD800 + (n - 0x10000) / 0x400) ++ unitEscape (0xDC00 + (n - 0x10000) % 0x400)

def stringText (s : String) : List Char :=
  '\x22' :: (s.toList.flatMap escapedChar ++ ['\x22'])

def escapedPoint : Point → List Char
  | .char c => escapedChar c
  | .lone s => unitEscape s.code

def brokenText (b : Broken) : List Char :=
  '\x22' :: (b.points.flatMap escapedPoint ++ ['\x22'])

def floatText : Binary64 → List Char
  | .nan => "NaN".toList
  | .infinite n => (if n then "-Infinity" else "Infinity").toList
  | x => x.text

/-- How the parts of lists and objects are set apart. -/
inductive Layout
  | oneLine
  | indented
  deriving DecidableEq, Repr

namespace Layout

def lineBreak : Layout → Nat → List Char
  | oneLine, _ => []
  | indented, level => '\n' :: List.replicate (2 * level) ' '

def separator : Layout → Nat → List Char
  | oneLine, _ => [',', ' ']
  | indented, level => ',' :: indented.lineBreak level

/-- Parts at `level + 1` between brackets that stand at `level`. -/
def enclose (layout : Layout) (level : Nat) (opening closing : Char) (parts : List (List Char)) :
    List Char :=
  if parts.isEmpty then [opening, closing]
  else
    opening :: (layout.lineBreak (level + 1) ++ joinWith (layout.separator (level + 1)) parts ++
      layout.lineBreak level ++ [closing])

end Layout

namespace Value

mutual

def write (layout : Layout) (level : Nat) : Value → List Char
  | null => "null".toList
  | bool b => (if b then "true" else "false").toList
  | int n => decimalInt n
  | float x => floatText x
  | str s => stringText s
  | broken b => brokenText b
  | arr items => layout.enclose level '[' ']' (writeItems layout (level + 1) items)
  | obj fields => layout.enclose level '\x7b' '\x7d' (writeFields layout (level + 1) fields)

def writeItems (layout : Layout) (level : Nat) : List Value → List (List Char)
  | [] => []
  | v :: vs => write layout level v :: writeItems layout level vs

def writeFields (layout : Layout) (level : Nat) : List (String × Value) → List (List Char)
  | [] => []
  | (name, v) :: fs =>
    (stringText name ++ ':' :: ' ' :: write layout level v) :: writeFields layout level fs

end

def line (v : Value) : String := String.ofList (v.write .oneLine 0)

def pretty (v : Value) : String := String.ofList (v.write .indented 0)

end Value

end PeerCheck.Json
