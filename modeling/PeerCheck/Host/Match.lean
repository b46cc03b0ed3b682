import PeerCheck.Host.Wildcard
import PeerCheck.Text.Blank
import PeerCheck.Text.Casing

/-!
# Matching a host with a common name

The host is trimmed and lowered, the common name lowered only. An allowed wildcard matches every
host that ends in what follows its star, the dot included; any other name matches itself.
-/

namespace PeerCheck.Host

open PeerCheck.Text PeerCheck.Log

def normalizeHost (host : String) : String := String.ofList (lower (trim host.toList))

def normalizeName (cn : String) : String := String.ofList (lower cn.toList)

def matchesNormalized (host cn : List Char) : Bool :=
  if wildcardAllowed cn then endsWith host (cn.drop 1) else host == cn

def agrees (host cn : String) : Bool :=
  matchesNormalized (normalizeHost host).toList (normalizeName cn).toList

def matchRecords (cn : String) : List Record := wildcardRecords (normalizeName cn).toList

end PeerCheck.Host
