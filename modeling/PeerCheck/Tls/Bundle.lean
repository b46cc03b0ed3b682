import PeerCheck.Fault

/-!
# Key bundles

A bundle holds a private key, its certificate and further certificates under one password. Written
out, each stands in armour; the key is encrypted under a password where one is given.
-/

namespace PeerCheck.Tls

structure Bundle where
  password : String := ""
  key : Option String := none
  certificate : Option String := none
  further : List String := []
  deriving DecidableEq, Repr

inductive Armoured
  | key (name : String) (password : Option String)
  | certificate (name : String)
  deriving DecidableEq, Repr

namespace Armoured

def text : Armoured → String
  | key name none => s!"<key {name} PEM PKCS8 plain>\n"
  | key name (some password) => s!"<key {name} PEM PKCS8 encrypted:{password}>\n"
  | certificate name => s!"<cert {name} PEM>\n"

def textOf (parts : List Armoured) : String := String.join (parts.map text)

end Armoured

namespace Bundle

/-- All certificates, the one of the key first. -/
def certificates (b : Bundle) : List Armoured :=
  (b.certificate.toList ++ b.further).map Armoured.certificate

def openFrom (bundles : List (List UInt8 × Bundle)) (bytes : List UInt8)
    (password : Option String) : Except Fault Bundle :=
  match bundles.lookup bytes with
  | none => .error (.outside .value "Could not deserialize PKCS12 data")
  | some b =>
    if password.getD "" = b.password then .ok b
    else .error (.outside .value "Invalid password or PKCS12 data")

end Bundle

end PeerCheck.Tls
