import PeerCheck.Cert.Algorithm
import PeerCheck.Cert.Pem
import PeerCheck.Cert.Subject
import PeerCheck.Cert.Validity

/-!
# Certificates

A certificate is read from its encoding, which must be whole and without anything after it; only
the version and the subject are kept, and the bytes themselves. Signature, key, validity and
extensions have to be in form, and nothing is made of them.
-/

namespace PeerCheck.Cert

structure Certificate where
  der : List UInt8
  subject : Subject
  deriving DecidableEq, Repr

namespace Certificate

open Der

/-- The fields of the signed part that are kept. -/
structure Body where
  version : Nat
  subject : Name

/-- A public key: its algorithm and its bits. -/
def isPublicKey (content : Bytes) : Bool :=
  match Algorithm.skip? content with
  | some rest => (only? bitString rest).any isBitString
  | none => false

/-- An extension: an identifier, perhaps a mark that it is critical, and its octets. -/
def isExtension (e : Element) : Bool :=
  e.tag = sequence && (do
    let (_, rest) ← takeObjectId? e.content
    let (critical, rest) ← takeOptional? boolean rest
    let _ ← only? octetString rest
    some (critical.all (· = [0xFF]))).getD false

def areExtensions (content : Bytes) : Bool :=
  match (only? sequence content).bind elements? with
  | some es => es.all isExtension
  | none => false

/-- The version field: absent, or a number other than the default. -/
def version? : Option Bytes → Option Nat
  | none => some 0
  | some content => do
    let n ← (only? integer content).bind byteValue?
    if n = 0 then none else some n

def body? (content : Bytes) : Option Body := do
  let (versionField, rest) ← takeOptional? (context true 0) content
  let version ← version? versionField
  let (serial, rest) ← takeTagged? integer rest
  let rest ← Algorithm.skip? rest
  let (issuer, rest) ← takeTagged? sequence rest
  let _ ← Name.ofContent? issuer
  let (validity, rest) ← takeTagged? sequence rest
  let (subject, rest) ← takeTagged? sequence rest
  let subject ← Name.ofContent? subject
  let (key, rest) ← takeTagged? sequence rest
  let (issuerId, rest) ← takeOptional? (context false 1) rest
  let (subjectId, rest) ← takeOptional? (context false 2) rest
  let (extensions, rest) ← takeOptional? (context true 3) rest
  let wellFormed := isInteger serial && Validity.isWellFormed validity && isPublicKey key &&
    issuerId.all isBitString && subjectId.all isBitString && extensions.all areExtensions
  if wellFormed && rest.isEmpty then some ⟨version, subject⟩ else none

/-- The signed part of a whole certificate. -/
def read? (der : Bytes) : Option Body := do
  let content ← only? sequence der
  let (signed, rest) ← takeTagged? sequence content
  let body ← body? signed
  let rest ← Algorithm.skip? rest
  let signature ← only? bitString rest
  if isBitString signature then some body else none

def supportedVersions : List Nat := [0, 2]

def ofDer (der : Bytes) : Except Fault Certificate :=
  match read? der with
  | none => .error .undecodableCertificate
  | some body =>
    if supportedVersions.contains body.version then .ok ⟨der, .name body.subject⟩
    else .error (.unsupportedVersion body.version)

def ofPem (bytes : Bytes) : Except Fault Certificate :=
  match Pem.certificate? bytes with
  | none => .error .undecodableCertificate
  | some der => ofDer der

/-- A certificate from the content of a file: armoured if the mark of armour occurs in it. -/
def ofFile (bytes : Bytes) : Except Fault Certificate :=
  if Text.occursIn Pem.fileMark bytes then ofPem bytes else ofDer bytes

/-- A certificate of which only the written subject is known. -/
def ofSubject (subject : String) : Certificate := ⟨[], .written subject⟩

def commonName (c : Certificate) : Except Fault (Option String) := c.subject.render.map commonName?

def shown (c : Certificate) : Except Fault String :=
  c.subject.render.map fun s =>
    s!"PeerCertificate(subject={String.ofList (Text.quoted s.toList)})"

end Certificate

end PeerCheck.Cert
