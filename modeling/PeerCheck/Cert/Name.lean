import PeerCheck.Cert.Der
import PeerCheck.Fault
import PeerCheck.Text.Utf8

/-!
# Distinguished names

A name is a list of sets of attributes, each with a type and a value as it was encoded. The text of
a value depends on its tag; a value that is no text, a set that is empty and a set that holds the
same attribute twice show only when the text is asked for.
-/

namespace PeerCheck.Cert

open PeerCheck.Text

abbrev ObjectId := List Nat

namespace ObjectId

def commonName : ObjectId := [2, 5, 4, 3]
def uniqueIdentifier : ObjectId := [2, 5, 4, 45]

def dotted (oid : ObjectId) : List Char := joinWith ['.'] (oid.map decimal)

end ObjectId

def printableTag : UInt8 := 0x13
def universalTag : UInt8 := 0x1C
def bmpTag : UInt8 := 0x1E

structure Attribute where
  oid : ObjectId
  tag : UInt8
  content : List UInt8
  deriving DecidableEq, Repr

abbrev Name := List (List Attribute)

/-- The text of a value, or the octets of one that is no text. -/
inductive AttributeText
  | text (cs : List Char)
  | octets (bytes : List UInt8)
  deriving DecidableEq, Repr

/-- An attribute whose text is known. -/
structure NamedText where
  oid : ObjectId
  text : AttributeText
  deriving DecidableEq, Repr

/-! ## Encodings of text -/

/-- Characters of four bytes each. -/
def decodeUniversal? : List UInt8 → Option (List Char)
  | [] => some []
  | a :: b :: c :: d :: rest => do
    let n := ((a.toNat * 0x100 + b.toNat) * 0x100 + c.toNat) * 0x100 + d.toNat
    if n < 0xD800 ∨ (0xDFFF < n ∧ n < 0x110000) then
      let cs ← decodeUniversal? rest
      some (Char.ofNat n :: cs)
    else none
  | _ => none

/-- The 16-bit units of a text of two bytes each. -/
def units16? : List UInt8 → Option (List Nat)
  | [] => some []
  | a :: b :: rest => (units16? rest).map ((a.toNat * 0x100 + b.toNat) :: ·)
  | [_] => none

/-- Characters of one unit each, or of a pair of surrogates. -/
def decodeUnits? : List Nat → Option (List Char)
  | [] => some []
  | u :: us =>
    if u < 0xD800 ∨ 0xDFFF < u then (decodeUnits? us).map (Char.ofNat u :: ·)
    else match us with
      | v :: vs =>
        if u < 0xDC00 ∧ 0xDC00 ≤ v ∧ v ≤ 0xDFFF then
          let c := Char.ofNat (0x10000 + (u - 0xD800) * 0x400 + (v - 0xDC00))
          (decodeUnits? vs).map (c :: ·)
        else none
      | [] => none

def decodeBmp? (bytes : List UInt8) : Option (List Char) := (units16? bytes).bind decodeUnits?

def isPrintableByte (b : UInt8) : Bool :=
  let c := Char.ofNat b.toNat
  c.isAlphanum || " '()+,-./:=?".toList.contains c

def utf8Tags : List UInt8 := [0x04, 0x0C, 0x12, 0x13, 0x14, 0x16, 0x17, 0x18, 0x1A]

namespace Attribute

/-- Whether the content fits the tag, as far as it is looked at when a name is read. -/
def isWellFormed (tag : UInt8) (content : List UInt8) : Bool :=
  if tag = printableTag then content.all isPrintableByte
  else if tag = universalTag then (decodeUniversal? content).isSome
  else if tag = bmpTag then (decodeBmp? content).isSome
  else true

/-- The text of the value. A bit string has none, unless it is a unique identifier. -/
def text (a : Attribute) : Except Fault AttributeText :=
  if a.tag = Der.bitString then
    if a.oid = ObjectId.uniqueIdentifier then .ok (.octets a.content)
    else .error (.wrongType .bitsAsText)
  else
    let decoded :=
      if a.tag = universalTag then some (decodeUniversal? a.content)
      else if a.tag = bmpTag then some (decodeBmp? a.content)
      else if utf8Tags.contains a.tag then some (Utf8.decode? a.content)
      else if Der.isLongTag a.tag then some none
      else none
    match decoded with
    | some (some cs) => .ok (.text cs)
    | some none => .error .undecodableSubject
    | none => .error (.unnamedTextType a.tag.toNat)

def named (a : Attribute) : Except Fault NamedText := a.text.map (NamedText.mk a.oid)

def ofElement? (e : Der.Element) : Option Attribute := do
  if e.tag ≠ Der.sequence then none
  let (oid, rest) ← Der.takeObjectId? e.content
  let (value, rest) ← Der.take? rest
  if rest.isEmpty && isWellFormed value.tag value.content then
    some ⟨oid, value.tag, value.content⟩
  else none

end Attribute

namespace Name

def setOfElement? (e : Der.Element) : Option (List Attribute) := do
  if e.tag ≠ Der.set then none
  let es ← Der.elements? e.content
  if Der.isOrdered es then es.mapM Attribute.ofElement? else none

def ofContent? (content : List UInt8) : Option Name := do
  let es ← Der.elements? content
  es.mapM setOfElement?

/-- The texts of one set, which must be some and all different. -/
def setTexts (attributes : List Attribute) : Except Fault (List NamedText) := do
  let texts ← attributes.mapM Attribute.named
  if texts.isEmpty || !decide texts.Nodup then .error .undecodableSubject else .ok texts

/-- The texts of a name; the first fault in the order of the encoding decides. -/
def texts (name : Name) : Except Fault (List (List NamedText)) := name.mapM setTexts

end Name

end PeerCheck.Cert
