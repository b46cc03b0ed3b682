import PeerCheck.Json.Display
import PeerCheck.Json.Reader
import PeerCheck.Log.Template.Fault

/-!
# Message templates

A template is a text with conversions: `%`, a key in parentheses, flags, a width, a precision and
a letter that says how the argument is written. Arguments are a row, taken one by one and all to be
used, or one mapping, looked up by key. `%%` is a percent sign.
-/

namespace PeerCheck.Log

open PeerCheck.Text PeerCheck.Number PeerCheck.Json

/-- The arguments not yet taken: the mapping to look keys up in, if there is one, and the values
that the next conversions take. -/
structure Feed where
  mapping : Option Fields
  pending : List Value

namespace Feed

/-- A row of arguments; a single non-empty mapping stands for its entries. -/
def ofRow : List Value → Feed
  | [.obj (f :: fs)] => ⟨some (f :: fs), [.obj (f :: fs)]⟩
  | args => ⟨none, args⟩

def take (feed : Feed) : Except TemplateFault (Value × Feed) :=
  match feed.pending with
  | [] => .error .tooFewArguments
  | v :: vs => .ok (v, { feed with pending := vs })

/-- Every argument of a row has to be used. -/
def isFinished (feed : Feed) : Bool := feed.mapping.isSome || feed.pending.isEmpty

/-- Makes the entry of a key the one argument that follows. -/
def select (feed : Feed) (key : String) : Except TemplateFault Feed :=
  match feed.mapping with
  | none => .error .needsMapping
  | some fields =>
    match fields.get? key with
    | none => .error (.missingKey (String.ofList (quoted key.toList)))
    | some v => .ok { feed with pending := [v] }

end Feed

structure Conversion where
  leftAligned : Bool := false
  plus : Bool := false
  blank : Bool := false
  alternate : Bool := false
  zeros : Bool := false
  width : Nat := 0
  precision : Option Nat := none
  letter : Char := 's'

namespace Conversion

def setFlag? (c : Conversion) : Char → Option Conversion
  | '-' => some { c with leftAligned := true }
  | '+' => some { c with plus := true }
  | ' ' => some { c with blank := true }
  | '#' => some { c with alternate := true }
  | '0' => some { c with zeros := true }
  | _ => none

def takeFlags (c : Conversion) : List Char → Conversion × List Char
  | [] => (c, [])
  | f :: cs =>
    match c.setFlag? f with
    | some c => takeFlags c cs
    | none => (c, f :: cs)

def signFor (c : Conversion) (negative : Bool) : List Char :=
  if negative then ['-'] else if c.plus then ['+'] else if c.blank then [' '] else []

/-- Fills a text up to the width with blanks. -/
def fillBlanks (c : Conversion) (body : List Char) : List Char :=
  if c.leftAligned then padRight c.width ' ' body else padLeft c.width ' ' body

/-- Fills a number up to the width: with zeros between its sign and its digits, or with blanks. -/
def fillNumber (c : Conversion) (lead digits : List Char) : List Char :=
  if c.zeros && !c.leftAligned then lead ++ padLeft (c.width - lead.length) '0' digits
  else c.fillBlanks (lead ++ digits)

def text (c : Conversion) (body : List Char) : List Char :=
  c.fillBlanks (match c.precision with
    | some n => body.take n
    | none => body)

def whole (c : Conversion) (n : Int) : List Char :=
  let (base, mark) := match c.letter with
    | 'o' => (8, ['0', 'o'])
    | 'x' => (16, ['0', 'x'])
    | 'X' => (16, ['0', 'X'])
    | _ => (10, [])
  let digits := padLeft (c.precision.getD 0) '0' (digits base n.natAbs)
  let digits := if c.letter = 'X' then digits.map Char.toUpper else digits
  c.fillNumber (c.signFor (n < 0) ++ if c.alternate then mark else []) digits

/-- The digits of a finite number of units in fixed notation. -/
def fixedText (c : Conversion) (places units : Nat) : List Char :=
  let (whole, fraction) := Binary64.toPlaces units places
  whole ++ if fraction.isEmpty && !c.alternate then [] else '.' :: fraction

/-- The digits of a finite number of units with so many significant ones: in fixed notation where
the exponent allows it, without trailing zeros unless the alternate form is asked for. -/
def generalText (c : Conversion) (count units : Nat) : List Char :=
  let s := Binary64.toDigits units count
  let s := if c.alternate then s else s.dropTrailingZeros
  if -4 ≤ s.exponent ∧ s.exponent < count then
    let (whole, fraction) := s.split
    whole ++ if fraction.isEmpty && !c.alternate then [] else '.' :: fraction
  else s.scientificText c.alternate 'e'

def real (c : Conversion) (x : Binary64) : List Char :=
  let precision := c.precision.getD 6
  let body := match x with
    | .nan => "nan".toList
    | .infinite _ => "inf".toList
    | .finite _ units => match c.letter.toLower with
      | 'f' => c.fixedText precision units
      | 'e' => (Binary64.toDigits units (precision + 1)).scientificText c.alternate 'e'
      | _ => c.generalText (max precision 1) units
  let body := if c.letter.isUpper then body.map Char.toUpper else body
  c.fillNumber (c.signFor x.isNegative) body

/-- The whole number an argument gives. Fractions are cut off where `cut` allows it. -/
def toWhole (c : Conversion) (cut : Bool) : Value → Except TemplateFault Int
  | .int n => .ok n
  | .bool b => .ok (if b then 1 else 0)
  | .float x =>
    if cut then
      match x with
      | .nan => .error (.floatAsWhole false)
      | .infinite _ => .error (.floatAsWhole true)
      | x => .ok (x.truncate?.getD 0)
    else .error (.notWhole c.letter "float")
  | v => .error (if cut then .notReal c.letter v.typeName else .notWhole c.letter v.typeName)

def toReal : Value → Except TemplateFault Binary64
  | .float x => .ok x
  | .bool b => .ok (.ofNat (if b then 1 else 0))
  | .int n =>
    match Binary64.ofInt? n with
    | some x => .ok x
    | none => .error .wholeTooLarge
  | v => .error (.notNumber v.typeName)

/-- The code point an argument gives: a text of one, or a code. -/
def toPoint : Value → Except TemplateFault Point
  | .str s =>
    match s.toList with
    | [c] => .ok (.char c)
    | _ => .error .notCharacter
  | .broken b =>
    match b.points with
    | [p] => .ok p
    | _ => .error .notCharacter
  | .int n => if 0 ≤ n ∧ n < 0x110000 then .ok (unitPoint n.toNat) else .error .characterOutOfRange
  | .bool b => .ok (.char (Char.ofNat (if b then 1 else 0)))
  | _ => .error .notCharacter

/-- An argument in the form the letter asks for; `index` is where the letter stands. -/
def apply (c : Conversion) (index : Nat) (v : Value) : Except TemplateFault (List Char) :=
  match c.letter with
  | 's' => .ok (c.text v.plain.toList)
  | 'r' => .ok (c.text v.shown)
  | 'a' => .ok (c.text (escapeBeyondAscii v.shown))
  | 'd' | 'i' | 'u' => (c.toWhole true v).map c.whole
  | 'o' | 'x' | 'X' => (c.toWhole false v).map c.whole
  | 'e' | 'E' | 'f' | 'F' | 'g' | 'G' => (toReal v).map c.real
  | 'c' => (toPoint v).map fun p => c.fillBlanks p.shown
  | d =>
    let shown := if 0x20 ≤ d.toNat ∧ d.toNat < 0x7F then d else '?'
    .error (.unknownConversion shown d.toNat index)

end Conversion

/-- A key up to the parenthesis that closes it, `depth` being open inside; and the rest. -/
def takeKey (depth : Nat) : List Char → Option (List Char × List Char)
  | [] => none
  | ')' :: cs =>
    match depth with
    | 0 => some ([], cs)
    | d + 1 => (takeKey d cs).map fun (k, r) => (')' :: k, r)
  | c :: cs => (takeKey (if c = '(' then depth + 1 else depth) cs).map fun (k, r) => (c :: k, r)

/-- A number given by digits, or by an argument for a star. -/
def takeAmount (feed : Feed) : List Char → Except TemplateFault (Option Int × Feed × List Char)
  | '*' :: cs => do
    let (v, feed) ← feed.take
    match v with
    | .int n => .ok (some n, feed, cs)
    | .bool b => .ok (some (if b then 1 else 0), feed, cs)
    | _ => .error .starNotWhole
  | cs =>
    let ds := cs.takeWhile Char.isDigit
    let n : Int := ds.foldl (fun n d => n * 10 + (d.toNat - 0x30)) 0
    .ok (if ds.isEmpty then none else some n, feed, cs.dropWhile Char.isDigit)

def maxWidth : Int := 0x7FFFFFFFFFFFFFFF

def maxPrecision : Int := 0x7FFFFFFF

/-- A width: a negative one aligns to the left. -/
def takeWidth (c : Conversion) (feed : Feed) (cs : List Char) :
    Except TemplateFault (Conversion × Feed × List Char) := do
  let (amount, feed, rest) ← takeAmount feed cs
  match amount with
  | none => .ok (c, feed, rest)
  | some n =>
    if n > maxWidth ∨ n < -maxWidth then
      .error (if cs.head? = some '*' then .starTooLarge "ssize_t" else .tooWide)
    else if n < 0 then .ok ({ c with width := n.natAbs, leftAligned := true }, feed, rest)
    else .ok ({ c with width := n.natAbs }, feed, rest)

/-- A precision after a point; a negative one counts as zero. -/
def takePrecision (c : Conversion) (feed : Feed) :
    List Char → Except TemplateFault (Conversion × Feed × List Char)
  | '.' :: cs => do
    let (amount, feed, rest) ← takeAmount feed cs
    let n := amount.getD 0
    if n > maxPrecision ∨ n < -maxPrecision then
      .error (if cs.head? = some '*' then .starTooLarge "int" else .tooPrecise)
    else .ok ({ c with precision := some n.toNat }, feed, rest)
  | cs => .ok (c, feed, cs)

def skipSize : List Char → List Char
  | c :: cs => if c = 'h' ∨ c = 'l' ∨ c = 'L' then cs else c :: cs
  | [] => []

/-- A conversion after its percent sign, in a template of `total` characters: what it writes. -/
def convert (total : Nat) (feed : Feed) (cs : List Char) :
    Except TemplateFault (List Char × Feed × List Char) := do
  let (feed, cs) ← match cs with
    | '(' :: cs =>
      match feed.mapping, takeKey 0 cs with
      | none, _ => .error .needsMapping
      | some _, none => .error .unclosedKey
      | some _, some (key, cs) => do
        let feed ← feed.select (String.ofList key)
        pure (feed, cs)
    | cs => .ok (feed, cs)
  let (c, cs) := Conversion.takeFlags {} cs
  let (c, feed, cs) ← takeWidth c feed cs
  let (c, feed, cs) ← takePrecision c feed cs
  match skipSize cs with
  | [] => .error .unfinished
  | letter :: cs =>
    let (v, feed) ← feed.take
    let out ← { c with letter := letter }.apply (total - cs.length - 1) v
    .ok (out, feed, cs)

def expand (total : Nat) : Nat → Feed → List Char → Except TemplateFault (List Char)
  | 0, feed, _ => if feed.isFinished then .ok [] else .error .unusedArguments
  | fuel + 1, feed, cs =>
    match cs with
    | [] => if feed.isFinished then .ok [] else .error .unusedArguments
    | '%' :: '%' :: cs => (expand total fuel feed cs).map ('%' :: ·)
    | '%' :: cs =>
      match convert total feed cs with
      | .error e => .error e
      | .ok (out, feed, cs) => (expand total fuel feed cs).map (out ++ ·)
    | c :: cs => (expand total fuel feed cs).map (c :: ·)

/-- The message of a template and a row of arguments. Without arguments the template is the
message, percent signs and all. -/
def formatMessage (template : String) (args : List Value) : Except TemplateFault String :=
  if args.isEmpty then .ok template
  else
    let cs := template.toList
    (expand cs.length (cs.length + 1) (Feed.ofRow args) cs).map String.ofList

end PeerCheck.Log
