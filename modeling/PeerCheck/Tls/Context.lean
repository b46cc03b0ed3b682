import PeerCheck.Config.Algorithm
import PeerCheck.Fault

/-!
# Secure contexts

What matters of a context: how it came about, the oldest protocol version it is pinned to, whether
it checks host names itself, and whether it insists on a valid chain. A setting that was never made
is none; a context that is pinned to no version starts at the one the TLS library starts at.
-/

namespace PeerCheck.Tls

open PeerCheck.Config

inductive Origin
  | client
  | platform
  | given
  deriving DecidableEq, Repr

inductive Version
  | tls12
  | tls13
  deriving DecidableEq, Repr

structure Context where
  origin : Origin
  pinnedTo : Option Version := none
  checksHost : Option Bool := none
  requiresChain : Bool := false
  deriving DecidableEq, Repr

namespace Context

/-- The oldest version that a new context of the TLS library allows. -/
def libraryMinimum : Version := .tls12

def minimumVersion (c : Context) : Version := c.pinnedTo.getD libraryMinimum

/-- The version an algorithm is pinned to. -/
def pinned : Algorithm → Option Version
  | .tls12 => some .tls12
  | .tls13 => some .tls13
  | _ => none

def ofAlgorithm (a : Algorithm) : Context := { origin := .client, pinnedTo := pinned a }

/-- The context for the name of an algorithm, the default where the name is missing or empty. -/
def base? (name : Option String) : Except Fault Context :=
  let name := match name with
    | none | some "" => Algorithm.default.name
    | some n => n
  if name = Algorithm.obsoleteName then .error (.context .obsoleteAlgorithm)
  else match Algorithm.ofName? name with
    | some a => .ok (ofAlgorithm a)
    | none => .error (.context (.unknownAlgorithm name))

/-- Insists on a valid chain and leaves the host name to the verifier. -/
def enforce (c : Context) : Context := { c with checksHost := some false, requiresChain := true }

end Context

end PeerCheck.Tls
