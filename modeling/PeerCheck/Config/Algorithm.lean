/-!
# Secure context algorithms

The names a configuration may give for the protocol versions to negotiate. `SSLv2` is a known name
that is not supported.
-/

namespace PeerCheck.Config

inductive Algorithm
  | tls
  | ssl
  | tls12
  | tls13
  deriving DecidableEq, Repr

namespace Algorithm

def name : Algorithm → String
  | tls => "TLS"
  | ssl => "SSL"
  | tls12 => "TLSv1.2"
  | tls13 => "TLSv1.3"

def all : List Algorithm := [tls, ssl, tls12, tls13]

def default : Algorithm := tls

def ofName? (s : String) : Option Algorithm := all.find? (·.name == s)

/-- The name of the oldest version, which no context can be made for. -/
def obsoleteName : String := "SSLv2"

def listing : String :=
  let names := String.intercalate ", " (all.map fun a => s!"'{a.name}'")
  s!"[{names}]"

end Algorithm

end PeerCheck.Config
