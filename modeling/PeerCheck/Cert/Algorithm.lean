import PeerCheck.Cert.Der

/-!
# Algorithm identifiers

An algorithm is named by an object identifier and may have one parameter. Some algorithms leave no
choice: the keys of Edwards curves have none, signatures and RSA keys at most a null, and a key on
an elliptic curve names its curve.
-/

namespace PeerCheck.Cert.Algorithm

open Der

def null : UInt8 := 0x05

/-- What an algorithm says of its parameter. -/
inductive Parameter
  | none
  | nullOrNone
  | curve
  | any
  deriving DecidableEq, Repr

/-- Identifiers that share all but their last number. -/
def family (stem : List Nat) (last : List Nat) : List (List Nat) := last.map fun n => stem ++ [n]

/-- The keys of Edwards curves. -/
def bare : List (List Nat) := family [1, 3, 101] [110, 111, 112, 113]

/-- Signatures, and keys for RSA. -/
def plain : List (List Nat) :=
  family [1, 2, 840, 113549, 1, 1] [1, 5, 11, 12, 13, 14] ++
    family [1, 2, 840, 10045, 4, 3] [1, 2, 3, 4] ++
    family [2, 16, 840, 1, 101, 3, 4, 3] [1, 2, 3, 4, 9, 10, 11, 12, 13, 14, 15, 16]

/-- The keys on elliptic curves. -/
def onCurve : List Nat := [1, 2, 840, 10045, 2, 1]

def parameterOf (oid : List Nat) : Parameter :=
  if bare.contains oid then .none
  else if plain.contains oid then .nullOrNone
  else if oid = onCurve then .curve
  else .any

def isNull (e : Element) : Bool := e.tag = null && e.content.isEmpty

/-- A curve: by its name, inherited, or written out. -/
def isCurve (e : Element) : Bool :=
  (e.tag = Der.objectId && (Der.objectId? e.content).isSome) || isNull e || e.tag = sequence

def Parameter.allows : Parameter → List Element → Bool
  | any, es => es.length ≤ 1
  | none, es => es.isEmpty
  | nullOrNone, [] => true
  | nullOrNone, [e] => isNull e
  | curve, [e] => isCurve e
  | _, _ => false

/-- Whether a content is an algorithm identifier. -/
def isWellFormed (content : Bytes) : Bool :=
  match takeObjectId? content with
  | some (oid, rest) => (elements? rest).any (parameterOf oid).allows
  | Option.none => false

def skip? (bytes : Bytes) : Option Bytes := do
  let (content, rest) ← takeTagged? sequence bytes
  if isWellFormed content then some rest else Option.none

end PeerCheck.Cert.Algorithm
