/-!
# Failures of verification

Why a peer does not speak for the requested host. Each failure ends the connection under
verification; none is tried again.
-/

namespace PeerCheck

inductive Failure
  | sessionUnavailable
  | noCommonName
  | hostMismatch
  deriving DecidableEq, Repr

namespace Failure

def name : Failure → String
  | sessionUnavailable => "SessionUnavailable"
  | noCommonName => "NoCommonName"
  | hostMismatch => "HostMismatch"

def all : List Failure := [sessionUnavailable, noCommonName, hostMismatch]

def ofName? (s : String) : Option Failure := all.find? (·.name == s)

end Failure

/-- A failure with the values that were compared. -/
structure Unverified where
  failure : Failure
  message : String
  host : Option String := none
  commonName : Option String := none
  subject : Option String := none
  deriving DecidableEq, Repr

end PeerCheck
