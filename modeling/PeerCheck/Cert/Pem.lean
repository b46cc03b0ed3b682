import PeerCheck.Text.Base64
import PeerCheck.Text.Search
import PeerCheck.Text.Utf8

/-!
# PEM armour

Blocks of base64 between a line that begins them and a line that ends them, each with a label.
Text around the blocks is skipped, but one broken block spoils the whole input.
-/

namespace PeerCheck.Cert.Pem

open PeerCheck.Text

def bytesOf (s : String) : List UInt8 := s.toUTF8.toList

def beginMark : List UInt8 := bytesOf "-----BEGIN "
def endMark : List UInt8 := bytesOf "-----END "
def dashes : List UInt8 := bytesOf "-----"

/-- What tells an armoured file from a bare certificate. -/
def fileMark : List UInt8 := bytesOf "-----BEGIN"

structure Block where
  label : List UInt8
  endLabel : List UInt8
  body : List UInt8
  deriving DecidableEq, Repr

def takeBlock? (bytes : List UInt8) : Option (Block × List UInt8) := do
  let (_, rest) ← cutAt? beginMark bytes
  let (label, rest) ← cutAt? dashes rest
  let (body, rest) ← cutAt? endMark rest
  let (endLabel, rest) ← cutAt? dashes rest
  some (⟨label, endLabel, body⟩, rest)

/-- The blocks of an input up to the first that is not closed. The fuel is a bound on their
number. -/
def blocksUpTo : Nat → List UInt8 → List Block
  | 0, _ => []
  | fuel + 1, bytes =>
    match takeBlock? bytes with
    | some (b, rest) => b :: blocksUpTo fuel rest
    | none => []

def blocks (bytes : List UInt8) : List Block := blocksUpTo (bytes.length + 1) bytes

def isSpace (b : UInt8) : Bool := b = 0x20 || (0x09 ≤ b && b ≤ 0x0D)

/-- The headers and the data of a body, which an empty line separates. -/
def splitHeaders (body : List UInt8) : List UInt8 × List UInt8 :=
  let body := body.dropWhile isSpace
  match cutAt? [0x0A, 0x0A] body with
  | some parts => parts
  | none => (cutAt? [0x0D, 0x0A, 0x0D, 0x0A] body).getD ([], body)

def linesOf (bytes : List UInt8) : List (List UInt8) :=
  bytes.foldr (fun b lines =>
    if b = 0x0A then [] :: lines
    else match lines with
      | l :: ls => (b :: l) :: ls
      | [] => [[b]]) []

/-- A header has a name, a colon and a value. -/
def areHeaders (bytes : List UInt8) : Bool := (linesOf bytes).all (·.contains 0x3A)

def Block.decode? (b : Block) : Option (List UInt8) := do
  if b.label.isEmpty || b.label != b.endLabel then none
  let (headers, data) := splitHeaders b.body
  let text ← Utf8.decode? (data.filter fun c => !isSpace c)
  if areHeaders headers then Base64.decode? text else none

def certificateLabels : List (List UInt8) := [bytesOf "CERTIFICATE", bytesOf "X509 CERTIFICATE"]

/-- The bytes of the first certificate, if every block is whole. -/
def certificate? (bytes : List UInt8) : Option (List UInt8) := do
  let decoded ← (blocks bytes).mapM fun b => b.decode?.map fun data => (b.label, data)
  (decoded.find? fun (label, _) => certificateLabels.contains label).map (·.2)

end PeerCheck.Cert.Pem
