/-!
# Distinguished encoding

Elements of the distinguished encoding rules: a tag, a length in its shortest form, the content.
A reader takes an element off the front of the bytes; contents are read the same way until nothing
is left.
-/

namespace PeerCheck.Cert.Der

abbrev Bytes := List UInt8

/-- An element, with the bytes it was read from. -/
structure Element where
  tag : UInt8
  content : Bytes
  encoded : Bytes
  deriving DecidableEq, Repr

/-- The tags this library reads. -/
def boolean : UInt8 := 0x01
def integer : UInt8 := 0x02
def bitString : UInt8 := 0x03
def octetString : UInt8 := 0x04
def objectId : UInt8 := 0x06
def utcTime : UInt8 := 0x17
def generalTime : UInt8 := 0x18
def sequence : UInt8 := 0x30
def set : UInt8 := 0x31

/-- A context tag, primitive or constructed. -/
def context (constructed : Bool) (n : UInt8) : UInt8 := (if constructed then 0xA0 else 0x80) + n

/-- Whether the tag number does not fit the first byte, which alone is kept. -/
def isLongTag (tag : UInt8) : Bool := tag.toNat % 0x20 = 31

/-- The rest of a tag number that does not fit the first byte: at most four bytes, seven bits each,
in the shortest form, for numbers from 31 on. -/
def skipTagNumber : Nat → Nat → Bytes → Option Bytes
  | 0, _, _ => none
  | _, _, [] => none
  | left + 1, n, b :: bs =>
    if n = 0 ∧ b = 0x80 then none
    else
      let n := n * 0x80 + b.toNat % 0x80
      if b < 0x80 then (if n < 31 then none else some bs) else skipTagNumber left n bs

/-- A big-endian number in `count` bytes, and the rest. -/
def takeNumber : Nat → Nat → Bytes → Option (Nat × Bytes)
  | 0, n, bs => some (n, bs)
  | _ + 1, _, [] => none
  | count + 1, n, b :: bs => takeNumber count (n * 0x100 + b.toNat) bs

def takeLength : Bytes → Option (Nat × Bytes)
  | [] => none
  | b :: bs =>
    if b < 0x80 then some (b.toNat, bs)
    else
      let count := b.toNat - 0x80
      if count = 0 ∨ 4 < count then none
      else do
        let (n, rest) ← takeNumber count 0 bs
        if n < max 0x80 (1 <<< (8 * (count - 1))) then none else some (n, rest)

def take? : Bytes → Option (Element × Bytes)
  | [] => none
  | tag :: bs => do
    let afterTag ← if isLongTag tag then skipTagNumber 4 0 bs else some bs
    let (n, rest) ← takeLength afterTag
    if rest.length < n then none
    else
      let after := rest.drop n
      some (⟨tag, rest.take n, (tag :: bs).take (bs.length + 1 - after.length)⟩, after)

/-- The content of a first element that has the given tag, and what follows it. -/
def takeTagged? (tag : UInt8) (bytes : Bytes) : Option (Bytes × Bytes) := do
  let (e, rest) ← take? bytes
  if e.tag = tag then some (e.content, rest) else none

/-- Like `takeTagged?` where the element is optional: nothing is taken if the next tag differs. -/
def takeOptional? (tag : UInt8) (bytes : Bytes) : Option (Option Bytes × Bytes) :=
  if bytes.head? = some tag then (takeTagged? tag bytes).map fun (c, rest) => (some c, rest)
  else some (none, bytes)

def only? (tag : UInt8) (bytes : Bytes) : Option Bytes := do
  let (content, rest) ← takeTagged? tag bytes
  if rest.isEmpty then some content else none

/-- The elements that make up the bytes. The fuel is a bound on their number. -/
def elementsUpTo : Nat → Bytes → Option (List Element)
  | _, [] => some []
  | 0, _ => none
  | fuel + 1, bytes => do
    let (e, rest) ← take? bytes
    let es ← elementsUpTo fuel rest
    some (e :: es)

def elements? (bytes : Bytes) : Option (List Element) := elementsUpTo bytes.length bytes

/-- Byte strings in the order of a dictionary. -/
def bytesLe : Bytes → Bytes → Bool
  | [], _ => true
  | _ :: _, [] => false
  | a :: as, b :: bs => a < b || (a == b && bytesLe as bs)

/-- Whether the members of a set stand in the order of their encodings. -/
def isOrdered : List Element → Bool
  | a :: b :: es => bytesLe a.encoded b.encoded && isOrdered (b :: es)
  | _ => true

/-- Whether a content is a whole number in its shortest form. -/
def isInteger : Bytes → Bool
  | [] => false
  | [_] => true
  | a :: b :: _ => !(a = 0 && b < 0x80) && !(a = 0xFF && 0x80 ≤ b)

/-- A whole number from 0 to 255. -/
def byteValue? (content : Bytes) : Option Nat :=
  match content with
  | [b] => if b < 0x80 then some b.toNat else none
  | [0, b] => if 0x80 ≤ b then some b.toNat else none
  | _ => none

/-- Whether a content is a bit string: a count of unused bits below eight, and these bits zero. -/
def isBitString : Bytes → Bool
  | [] => false
  | [unused] => unused = 0
  | unused :: b :: bs =>
    unused < 8 && ((b :: bs).getLastD 0).toNat % (1 <<< unused.toNat) = 0

/-- The arcs of an object identifier, seven bits a byte in the shortest form; `n` is the part of
the arc read so far, and `fresh` tells whether an arc begins. -/
def arcs? (fresh : Bool) (n : Nat) : Bytes → Option (List Nat)
  | [] => if fresh then some [] else none
  | b :: bs =>
    if fresh ∧ b = 0x80 then none
    else
      let n := n * 0x80 + b.toNat % 0x80
      if b < 0x80 then (arcs? true 0 bs).map (n :: ·) else arcs? false n bs

def maxObjectId : Nat := 63

/-- An object identifier; the first number read stands for two arcs. -/
def objectId? (content : Bytes) : Option (List Nat) :=
  if content.isEmpty || content.length > maxObjectId then none
  else
    match arcs? true 0 content with
    | some (n :: rest) => some (min (n / 40) 2 :: (n - 40 * min (n / 40) 2) :: rest)
    | _ => none

def takeObjectId? (bytes : Bytes) : Option (List Nat × Bytes) := do
  let (content, rest) ← takeTagged? objectId bytes
  let oid ← objectId? content
  some (oid, rest)

end PeerCheck.Cert.Der
