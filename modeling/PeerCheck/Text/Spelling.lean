import PeerCheck.Text.Quoted

/-!
# Spellings

A text can hold surrogates, which are no characters: an escape in a file writes one without its
other half, and a byte of a variable that begins no character is kept as one. A spelling is a text
as it came in, sound where it holds characters only. A broken one has no UTF-8 form; as the name of
a file it has one where its surrogates stand for bytes. Messages show a surrogate by its escape.
-/

namespace PeerCheck.Text

/-- A surrogate, by its place among all of them. -/
abbrev Surrogate := Fin 0x800

namespace Surrogate

def code (s : Surrogate) : Nat := 0xD800 + s.val

def ofCode (code : Nat) : Surrogate := Fin.ofNat 0x800 (code - 0xD800)

/-- The byte beyond ASCII that is kept as a surrogate. -/
def byte? (s : Surrogate) : Option UInt8 :=
  if 0xDC80 ≤ s.code ∧ s.code ≤ 0xDCFF then some (.ofNat (s.code - 0xDC00)) else none

end Surrogate

inductive Point
  | char (c : Char)
  | lone (s : Surrogate)
  deriving DecidableEq, Repr

namespace Point

def isLone : Point → Bool
  | char _ => false
  | lone _ => true

def char? : Point → Option Char
  | char c => some c
  | lone _ => none

def shown : Point → List Char
  | char c => [c]
  | lone s => codeEscape s.code

def quoted (quote : Char) : Point → List Char
  | char c => quotedChar quote c
  | lone s => codeEscape s.code

/-- The bytes in the name of a file; a surrogate that stands for no byte has none. -/
def bytes : Point → List UInt8
  | char c => String.utf8EncodeChar c
  | lone s => s.byte?.toList

end Point

/-- Why a text cannot be encoded: a run of surrogates. -/
structure EncodeFault where
  first : Surrogate
  position : Nat
  count : Nat
  deriving DecidableEq, Repr

namespace EncodeFault

def message (f : EncodeFault) : String :=
  let place :=
    if f.count = 1 then
      let code := String.ofList (codeEscape f.first.code)
      s!"character '{code}' in position {f.position}"
    else s!"characters in position {f.position}-{f.position + f.count - 1}"
  s!"'utf-8' codec can't encode {place}: surrogates not allowed"

/-- The first run of surrogates of which not all stand for bytes, from its first one that does
not. -/
def inName? (position : Nat) : List Point → Option EncodeFault
  | [] => none
  | .char _ :: ps => inName? (position + 1) ps
  | .lone s :: ps =>
    if s.byte?.isSome then inName? (position + 1) ps
    else some ⟨s, position, (ps.takeWhile Point.isLone).length + 1⟩

end EncodeFault

/-- A text with a surrogate in it: what precedes the first one, and what follows it. -/
structure Broken where
  before : String
  lone : Surrogate
  after : List Point
  deriving DecidableEq, Repr

namespace Broken

def points (b : Broken) : List Point := b.before.toList.map .char ++ .lone b.lone :: b.after

def shown (b : Broken) : String := String.ofList (b.points.flatMap Point.shown)

def quoted (b : Broken) : List Char :=
  let quote := quoteFor (b.points.filterMap Point.char?)
  quote :: (b.points.flatMap (Point.quoted quote) ++ [quote])

/-- Why it has no UTF-8 form. -/
def fault (b : Broken) : EncodeFault :=
  ⟨b.lone, b.before.length, (b.after.takeWhile Point.isLone).length + 1⟩

end Broken

inductive Spelling
  | sound (s : String)
  | broken (b : Broken)
  deriving DecidableEq, Repr

instance : Coe String Spelling := ⟨.sound⟩

namespace Spelling

def points : Spelling → List Point
  | sound s => s.toList.map .char
  | broken b => b.points

/-- The characters up to the first surrogate, and the rest. -/
def takeChars : List Point → List Char × List Point
  | .char c :: ps =>
    let (cs, rest) := takeChars ps
    (c :: cs, rest)
  | ps => ([], ps)

def ofPoints (ps : List Point) : Spelling :=
  match takeChars ps with
  | (cs, .lone s :: after) => .broken ⟨String.ofList cs, s, after⟩
  | (cs, _) => .sound (String.ofList cs)

def shown : Spelling → String
  | sound s => s
  | broken b => b.shown

def quoted : Spelling → List Char
  | sound s => Text.quoted s.toList
  | broken b => b.quoted

/-- The characters after the last surrogate. -/
def ending (t : Spelling) : List Char :=
  ((t.points.reverse.takeWhile (!·.isLone)).filterMap Point.char?).reverse

def append : Spelling → String → Spelling
  | sound t, s => .sound (t ++ s)
  | broken b, s => .broken { b with after := b.after ++ s.toList.map .char }

end Spelling

end PeerCheck.Text
