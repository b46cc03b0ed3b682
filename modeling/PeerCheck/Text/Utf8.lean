import PeerCheck.Text.Digit

/-!
# UTF-8

Decoding reads the bytes one by one into pieces: a character, or the longest run of bytes that
could have begun one and does not. A strict decoding stops at the first bad run and says what is
wrong with it; a lenient one puts one replacement character for each.
-/

namespace PeerCheck.Text.Utf8

inductive Defect
  | badStart
  | badContinuation
  | cutShort
  deriving DecidableEq, Repr

/-- A run of bytes that encodes no character, and the offset where it starts. -/
structure BadRun where
  defect : Defect
  offset : Nat
  bytes : List UInt8
  deriving DecidableEq, Repr

inductive Piece
  | char (c : Char)
  | bad (run : BadRun)
  deriving DecidableEq, Repr

/-- A character under way: the bytes read, the bits they give, how many continuation bytes are
still due, and the range the next one must lie in. -/
structure Pending where
  bytes : List UInt8
  value : Nat
  due : Nat
  low : UInt8
  high : UInt8

namespace Pending

/-- A first byte of several, whose own bits are `value`. The range of the second byte leaves out
overlong forms, surrogates and code points past the last. -/
def ofLead? (b : UInt8) : Option Pending :=
  if 0xC2 ≤ b ∧ b ≤ 0xDF then some ⟨[b], b.toNat % 0x20, 1, 0x80, 0xBF⟩
  else if b = 0xE0 then some ⟨[b], b.toNat % 0x10, 2, 0xA0, 0xBF⟩
  else if b = 0xED then some ⟨[b], b.toNat % 0x10, 2, 0x80, 0x9F⟩
  else if 0xE1 ≤ b ∧ b ≤ 0xEF then some ⟨[b], b.toNat % 0x10, 2, 0x80, 0xBF⟩
  else if b = 0xF0 then some ⟨[b], b.toNat % 8, 3, 0x90, 0xBF⟩
  else if b = 0xF4 then some ⟨[b], b.toNat % 8, 3, 0x80, 0x8F⟩
  else if 0xF1 ≤ b ∧ b ≤ 0xF3 then some ⟨[b], b.toNat % 8, 3, 0x80, 0xBF⟩
  else none

def accepts (p : Pending) (b : UInt8) : Bool := p.low ≤ b && b ≤ p.high

def push (p : Pending) (b : UInt8) : Pending :=
  ⟨p.bytes ++ [b], p.value * 0x40 + b.toNat % 0x40, p.due - 1, 0x80, 0xBF⟩

/-- The run of bytes read so far, given up at `offset`. -/
def abandon (p : Pending) (defect : Defect) (offset : Nat) : Piece :=
  .bad ⟨defect, offset - p.bytes.length, p.bytes⟩

end Pending

/-- The state after a byte that begins a character, and the piece it completes. -/
def begin (offset : Nat) (b : UInt8) : List Piece × Option Pending :=
  if b < 0x80 then ([.char (Char.ofNat b.toNat)], none)
  else match Pending.ofLead? b with
    | some p => ([], some p)
    | none => ([.bad ⟨.badStart, offset, [b]⟩], none)

/-- The pieces that the byte at `offset` completes, and the character then under way. -/
def step (offset : Nat) (b : UInt8) : Option Pending → List Piece × Option Pending
  | none => begin offset b
  | some p =>
    if p.accepts b then
      let p := p.push b
      if p.due = 0 then ([.char (Char.ofNat p.value)], none) else ([], some p)
    else
      let (pieces, next) := begin offset b
      (p.abandon .badContinuation offset :: pieces, next)

def piecesFrom (offset : Nat) (pending : Option Pending) : List UInt8 → List Piece
  | [] => match pending with
    | none => []
    | some p => [p.abandon .cutShort offset]
  | b :: bs =>
    let (pieces, next) := step offset b pending
    pieces ++ piecesFrom (offset + 1) next bs

def pieces (bytes : List UInt8) : List Piece := piecesFrom 0 none bytes

def ofPieces : List Piece → Except BadRun (List Char)
  | [] => .ok []
  | .char c :: ps => (ofPieces ps).map (c :: ·)
  | .bad run :: _ => .error run

def decode (bytes : List UInt8) : Except BadRun (List Char) := ofPieces (pieces bytes)

def decode? (bytes : List UInt8) : Option (List Char) := (decode bytes).toOption

def Piece.lenient : Piece → Char
  | .char c => c
  | .bad _ => '\uFFFD'

def decodeLenient (bytes : List UInt8) : List Char := (pieces bytes).map Piece.lenient

def encode (cs : List Char) : List UInt8 := cs.flatMap String.utf8EncodeChar

namespace Defect

def reason : Defect → String
  | badStart => "invalid start byte"
  | badContinuation => "invalid continuation byte"
  | cutShort => "unexpected end of data"

end Defect

namespace BadRun

def message (r : BadRun) : String :=
  let place := match r.bytes with
    | [b] =>
      let code := String.ofList (hexPadded 2 b.toNat)
      s!"byte 0x{code} in position {r.offset}"
    | bs => s!"bytes in position {r.offset}-{r.offset + bs.length - 1}"
  s!"'utf-8' codec can't decode {place}: {r.defect.reason}"

end BadRun

end PeerCheck.Text.Utf8
