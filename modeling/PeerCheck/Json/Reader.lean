import PeerCheck.Json.Value
import PeerCheck.Number.Reading
import PeerCheck.Text.Search

/-!
# Reading JSON

`parse` reads one value with blanks around it, and `parseWithin` one whose lists and objects are
nested only so deep. Beside the standard's grammar they take `NaN`, `Infinity` and `-Infinity` as
numbers; a repeated name keeps its first place and takes the last value. A fault tells what was
expected and where, as an offset counted in characters; its message adds the line and the column.
A surrogate whose other half is not written next to it makes a text broken; in a name it is replaced
by its escape, as messages show it.
-/

namespace PeerCheck.Json

open PeerCheck.Text PeerCheck.Number

inductive Complaint
  | expectingValue
  | expectingName
  | expectingColon
  | expectingComma
  | unterminatedString
  | controlCharacter
  | badEscape
  | badUnicodeEscape
  | extraData
  | byteOrderMark
  deriving DecidableEq, Repr

/-- What lies inside another value. -/
inductive Nest
  | list
  | object
  deriving DecidableEq, Repr

inductive ReadFault
  | at (complaint : Complaint) (offset : Nat)
  | tooManyDigits (count : Nat)
  | tooDeep (nest : Nest)
  deriving DecidableEq, Repr

/-- The rest of a text and the offset where it starts. -/
structure Cursor where
  offset : Nat
  rest : List Char
  deriving Repr

namespace Cursor

def isSpace (c : Char) : Bool := c = ' ' || c = '\t' || c = '\n' || c = '\r'

def advance (c : Cursor) (n : Nat) (rest : List Char) : Cursor := ⟨c.offset + n, rest⟩

def skipSpace (c : Cursor) : Cursor :=
  let rest := c.rest.dropWhile isSpace
  ⟨c.offset + (c.rest.length - rest.length), rest⟩

def fault {α : Type} (c : Cursor) (complaint : Complaint) : Except ReadFault α :=
  .error (.at complaint c.offset)

end Cursor

def shortEscape? (c : Char) : Option Char :=
  match c with
  | '\x22' => some '\x22'
  | '\\' => some '\\'
  | '/' => some '/'
  | 'b' => some '\x08'
  | 'f' => some '\x0c'
  | 'n' => some '\n'
  | 'r' => some '\r'
  | 't' => some '\t'
  | _ => none

/-- The value of four hexadecimal digits that something follows. -/
def hexQuad? : List Char → Option (Nat × List Char)
  | a :: b :: c :: d :: next :: rest => do
    let n := ((← hexValue? a) * 16 + (← hexValue? b)) * 16
    some ((n + (← hexValue? c)) * 16 + (← hexValue? d), next :: rest)
  | _ => none

def isHighSurrogate (n : Nat) : Bool := 0xD800 ≤ n && n < 0xDC00

def isLowSurrogate (n : Nat) : Bool := 0xDC00 ≤ n && n < 0xE000

def joinSurrogates (high low : Nat) : Char :=
  Char.ofNat (0x10000 + (high - 0xD800) * 0x400 + (low - 0xDC00))

/-- A code unit by itself. -/
def unitPoint (n : Nat) : Point :=
  if isHighSurrogate n || isLowSurrogate n then .lone (.ofCode n) else .char (Char.ofNat n)

/-- What a `\u` escape stands for, given its digits at the cursor, and what follows. A high surrogate
takes a second escape with it if a low one is written there. -/
def unicodeEscape (c : Cursor) : Except ReadFault (Point × Cursor) :=
  match hexQuad? c.rest with
  | none => .error (.at .badUnicodeEscape (c.offset - 1))
  | some (high, rest) =>
    let single := (unitPoint high, c.advance 4 rest)
    if !isHighSurrogate high then .ok single
    else match rest with
      | '\\' :: 'u' :: more =>
        match hexQuad? more with
        | some (low, rest) =>
          if isLowSurrogate low then .ok (.char (joinSurrogates high low), c.advance 10 rest)
          else .ok single
        | none => if more.length < 5 then .ok single else .error (.at .badUnicodeEscape (c.offset + 5))
      | _ => .ok single

/-- What a string holds up to its closing quote, put after `got` (in reverse); `start` is where the
string began. The fuel is a bound on the characters left. -/
def readString (start : Nat) : Nat → List Point → Cursor → Except ReadFault (List Point × Cursor)
  | 0, _, _ => .error (.at .unterminatedString start)
  | fuel + 1, got, c =>
    match c.rest with
    | [] => .error (.at .unterminatedString start)
    | '\x22' :: rest => .ok (got.reverse, c.advance 1 rest)
    | '\\' :: rest =>
      match rest with
      | [] => .error (.at .unterminatedString start)
      | 'u' :: rest =>
        match unicodeEscape (c.advance 2 rest) with
        | .error e => .error e
        | .ok (p, c) => readString start fuel (p :: got) c
      | e :: rest =>
        match shortEscape? e with
        | none => c.fault .badEscape
        | some d => readString start fuel (.char d :: got) (c.advance 2 rest)
    | d :: rest =>
      if d.toNat < 0x20 then c.fault .controlCharacter
      else readString start fuel (.char d :: got) (c.advance 1 rest)

/-- A string whose opening quote stands just before the cursor. -/
def readStringBody (c : Cursor) : Except ReadFault (Spelling × Cursor) :=
  (readString (c.offset - 1) (c.rest.length + 1) [] c).map fun (ps, c) => (.ofPoints ps, c)

/-- The digits of a whole number: a lone zero, or digits that begin with another one. -/
def takeWhole : List Char → List Char × List Char
  | '0' :: rest => (['0'], rest)
  | cs => takeDigits cs

/-- A point with digits after it, or nothing. -/
def takeFraction : List Char → List Char × List Char
  | '.' :: rest =>
    match takeDigits rest with
    | ([], _) => ([], '.' :: rest)
    | (ds, rest) => ('.' :: ds, rest)
  | cs => ([], cs)

def takeExponent : List Char → List Char × List Char
  | c :: rest =>
    if c = 'e' ∨ c = 'E' then
      let (sign, digits) := match rest with
        | '+' :: r => (['+'], r)
        | '-' :: r => (['-'], r)
        | r => ([], r)
      match takeDigits digits with
      | ([], _) => ([], c :: rest)
      | (ds, rest) => (c :: (sign ++ ds), rest)
    else ([], c :: rest)
  | [] => ([], [])

def readNumber (c : Cursor) : Except ReadFault (Value × Cursor) :=
  let (negative, body) := match c.rest with
    | '-' :: r => (true, r)
    | r => (false, r)
  match takeWhole body with
  | ([], _) => c.fault .expectingValue
  | (whole, rest) =>
    let (fraction, rest) := takeFraction rest
    let (exponent, rest) := takeExponent rest
    let after := ⟨c.offset + (c.rest.length - rest.length), rest⟩
    if fraction.isEmpty && exponent.isEmpty then
      if whole.length > maxIntDigits then .error (.tooManyDigits whole.length)
      else
        let n : Int := digitsValue whole
        .ok (.int (if negative then -n else n), after)
    else
      match readUnsigned? negative (whole ++ fraction ++ exponent) with
      | some x => .ok (.float x, after)
      | none => c.fault .expectingValue

def constants : List (String × Value) := [
  ("null", .null), ("true", .bool true), ("false", .bool false), ("NaN", .float .nan),
  ("Infinity", .float (.infinite false)), ("-Infinity", .float (.infinite true))]

def takeConstant? (c : Cursor) : Option (Value × Cursor) :=
  constants.findSome? fun (name, v) =>
    (dropPrefix? name.toList c.rest).map fun rest => (v, c.advance name.length rest)

mutual

/-- The value at the cursor, with room for so many lists and objects inside each other. The fuel is a
bound on the steps left. -/
def readValue (room : Nat) : Nat → Cursor → Except ReadFault (Value × Cursor)
  | 0, c => c.fault .expectingValue
  | fuel + 1, c =>
    match c.rest with
    | '\x22' :: rest => (readStringBody (c.advance 1 rest)).map fun (t, c) => (.ofText t, c)
    | '[' :: rest =>
      match room with
      | 0 => .error (.tooDeep .list)
      | room + 1 =>
        let c := (c.advance 1 rest).skipSpace
        match c.rest with
        | ']' :: rest => .ok (.arr [], c.advance 1 rest)
        | _ => (readItems room fuel c).map fun (vs, c) => (.arr vs, c)
    | '\x7b' :: rest =>
      match room with
      | 0 => .error (.tooDeep .object)
      | room + 1 =>
        let c := (c.advance 1 rest).skipSpace
        match c.rest with
        | '\x7d' :: rest => .ok (.obj [], c.advance 1 rest)
        | _ => (readFields room fuel [] c).map fun (fs, c) => (.obj fs, c)
    | _ =>
      match takeConstant? c with
      | some r => .ok r
      | none => readNumber c

def readItems (room : Nat) : Nat → Cursor → Except ReadFault (List Value × Cursor)
  | 0, c => c.fault .expectingValue
  | fuel + 1, c =>
    match readValue room fuel c with
    | .error e => .error e
    | .ok (v, c) =>
      let c := c.skipSpace
      match c.rest with
      | ']' :: rest => .ok ([v], c.advance 1 rest)
      | ',' :: rest =>
        (readItems room fuel (c.advance 1 rest).skipSpace).map fun (vs, c) => (v :: vs, c)
      | _ => c.fault .expectingComma

/-- The fields of an object up to its end, put into those before them. -/
def readFields (room : Nat) : Nat → Fields → Cursor → Except ReadFault (Fields × Cursor)
  | 0, _, c => c.fault .expectingName
  | fuel + 1, before, c =>
    match c.rest with
    | '\x22' :: rest =>
      match readStringBody (c.advance 1 rest) with
      | .error e => .error e
      | .ok (name, c) =>
        let c := c.skipSpace
        match c.rest with
        | ':' :: rest =>
          match readValue room fuel (c.advance 1 rest).skipSpace with
          | .error e => .error e
          | .ok (v, c) =>
            let c := c.skipSpace
            let fields := before.put name.shown v
            match c.rest with
            | '\x7d' :: rest => .ok (fields, c.advance 1 rest)
            | ',' :: rest => readFields room fuel fields (c.advance 1 rest).skipSpace
            | _ => c.fault .expectingComma
        | _ => c.fault .expectingColon
    | _ => c.fault .expectingName

end

/-- Reads a text that holds one value and blanks around it, with room for so much nesting. -/
def parseWithin (room : Nat) (cs : List Char) : Except ReadFault Value :=
  if cs.head? = some '\uFEFF' then .error (.at .byteOrderMark 0)
  else
    match readValue room (2 * cs.length + 2) (Cursor.mk 0 cs).skipSpace with
    | .error e => .error e
    | .ok (v, c) =>
      let c := c.skipSpace
      if c.rest.isEmpty then .ok v else c.fault .extraData

/-- Reads a text that holds one value and blanks around it. No text is nested deeper than it is
long. -/
def parse (cs : List Char) : Except ReadFault Value := parseWithin cs.length cs

namespace Complaint

def message : Complaint → String
  | expectingValue => "Expecting value"
  | expectingName => "Expecting property name enclosed in double quotes"
  | expectingColon => "Expecting ':' delimiter"
  | expectingComma => "Expecting ',' delimiter"
  | unterminatedString => "Unterminated string starting at"
  | controlCharacter => "Invalid control character at"
  | badEscape => "Invalid \\escape"
  | badUnicodeEscape => "Invalid \\uXXXX escape"
  | extraData => "Extra data"
  | byteOrderMark => "Unexpected UTF-8 BOM (decode using utf-8-sig)"

end Complaint

def Nest.message (nest : Nest) : String :=
  let phrase := match nest with
    | list => "array"
    | object => "object"
  s!"maximum recursion depth exceeded while decoding a JSON {phrase} from a unicode string"

namespace ReadFault

/-- The line and the column, both counted from one, of an offset in a text. -/
def place (text : List Char) (offset : Nat) : Nat × Nat :=
  let before := text.take offset
  (before.count '\n' + 1, (before.reverse.takeWhile (· != '\n')).length + 1)

/-- The message for a fault found in `text`. -/
def message (text : List Char) : ReadFault → String
  | .at complaint offset =>
    let (line, column) := place text offset
    s!"{complaint.message}: line {line} column {column} (char {offset})"
  | .tooManyDigits count =>
    s!"Exceeds the limit ({maxIntDigits} digits) for integer string conversion: value has " ++
      s!"{count} digits; use sys.set_int_max_str_digits() to increase the limit"
  | .tooDeep nest => nest.message

end ReadFault

end PeerCheck.Json
