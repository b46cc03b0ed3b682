import PeerCheck.Cert.CommonName
import PeerCheck.Cert.Name

/-!
# Subjects in written form

The sets of a name in reverse order, separated by commas; inside a set the attributes in order,
separated by plus signs; each as a key, an equals sign and the escaped text. Attribute types without
a key are written as dotted numbers.
-/

namespace PeerCheck.Cert

open PeerCheck.Text

def attributeKeys : List (ObjectId × String) := [
  (ObjectId.commonName, "CN"), ([2, 5, 4, 7], "L"), ([2, 5, 4, 8], "ST"), ([2, 5, 4, 10], "O"),
  ([2, 5, 4, 11], "OU"), ([2, 5, 4, 6], "C"), ([2, 5, 4, 9], "STREET"),
  ([0, 9, 2342, 19200300, 100, 1, 25], "DC"), ([0, 9, 2342, 19200300, 100, 1, 1], "UID"),
  ([1, 2, 840, 113549, 1, 9, 1], "EMAILADDRESS"), ([2, 5, 4, 5], "SERIALNUMBER"),
  ([2, 5, 4, 4], "SURNAME"), ([2, 5, 4, 42], "GIVENNAME"), ([2, 5, 4, 12], "T")]

def attributeKey (oid : ObjectId) : List Char :=
  match attributeKeys.lookup oid with
  | some key => key.toList
  | none => oid.dotted

/-- The characters that a backslash goes before wherever they stand. -/
def escapedAnywhere : List Char := ['\\', '\x22', '+', ',', ';', '<', '>']

def escapeChar (c : Char) : List Char :=
  if escapedAnywhere.contains c then ['\\', c]
  else if c = '\x00' then ['\\', '0', '0']
  else [c]

/-- A backslash before a number sign or a blank at the front. -/
def escapeFirst : List Char → List Char
  | c :: cs => if c = '#' ∨ c = ' ' then '\\' :: c :: cs else c :: cs
  | [] => []

def escapeLast (cs : List Char) : List Char :=
  if cs.getLast? = some ' ' then cs.dropLast ++ ['\\', ' '] else cs

def escapeText (cs : List Char) : List Char := escapeLast (escapeFirst (cs.flatMap escapeChar))

namespace AttributeText

def written : AttributeText → List Char
  | text cs => escapeText cs
  | octets [] => []
  | octets bytes => '#' :: bytes.flatMap fun b => hexPadded 2 b.toNat

end AttributeText

def NamedText.written (a : NamedText) : List Char := attributeKey a.oid ++ '=' :: a.text.written

def writtenSet (texts : List NamedText) : List Char := joinWith ['+'] (texts.map NamedText.written)

def writtenName (texts : List (List NamedText)) : List Char :=
  joinWith [','] (texts.reverse.map writtenSet)

/-- The subject of a certificate: a name, or only its written form where no more is known. -/
inductive Subject
  | name (n : Name)
  | written (s : String)
  deriving DecidableEq, Repr

namespace Subject

def render : Subject → Except Fault String
  | name n => (Name.texts n).map fun texts => String.ofList (writtenName texts)
  | written s => .ok s

def structuredText : AttributeText → String
  | .text cs => String.ofList cs
  | .octets bytes => String.ofList (Utf8.decodeLenient bytes)

/-- The value of the first common name attribute of a name. -/
def structuredCommonName? (texts : List NamedText) : Option String :=
  (texts.find? (·.oid == ObjectId.commonName)).map (structuredText ·.text)

/-- The first common name attribute, of a subject that is a name. -/
def structured : Subject → Except Fault (Option String)
  | name n => (Name.texts n).map fun texts => structuredCommonName? texts.flatten
  | written _ => .ok none

end Subject

end PeerCheck.Cert
