import PeerCheck.Cert.Certificate
import PeerCheck.Script

/-!
# Secure sockets

What a verifier sees of a secure socket: the session that was negotiated, and the two ways to press
for one. A socket of some TLS stack answers for itself; a plain TLS socket is seen through its
certificate and its chain. Both answer from scripts.

A socket without a session says so by giving none. What it raises is a fault of another kind, such
as one of the system or of TLS: that no session was to be had is found by who asks, and is not for
the socket to say.
-/

namespace PeerCheck

/-- The failure to get a session that a fault reports. -/
def Fault.lack? : Fault → Option Unverified
  | .unverified u => if u.failure = .sessionUnavailable then some u else none
  | _ => none

/-- A fault that a socket raises: any but the failure to get a session, which is raised only where a
ladder was climbed in vain. -/
abbrev SocketFault := { e : Fault // e.lack? = none }

/-- The answer of a socket, as who asks takes it. -/
def heard {α : Type} (answer : Except SocketFault α) : Except Fault α :=
  answer.mapError Subtype.val

/-- A negotiated session: the certificates of the peer, its own first. -/
structure Session where
  chain : List Cert.Certificate
  protocol : Option String
  cipher : Option String
  deriving DecidableEq, Repr

end PeerCheck

namespace PeerCheck.Session

/-- The certificate of the peer itself. -/
def leaf? (s : Session) : Option Cert.Certificate := s.chain.head?

/-- A socket that tells of its session itself. -/
structure StackSocket where
  sessions : Script (Except SocketFault (Option Session))
  probe : Script (Option SocketFault) := { current := none }
  handshake : Script (Option SocketFault) := { current := none }

/-- A TLS socket. `certificate` answers for the peer's certificate, none before there is one;
`chain` is absent where the socket cannot tell the chain. What it says of its version and cipher when
its session is reported may be another thing than when it was verified. -/
structure TlsSocket where
  certificate : Script (Except SocketFault (Option (List UInt8)))
  chain : Option (Except SocketFault (List (List UInt8))) := none
  version : Except SocketFault (Option String) := .ok none
  cipher : Except SocketFault (Option String) := .ok none
  reportedVersion : Except SocketFault (Option String) := version
  reportedCipher : Except SocketFault (Option String) := cipher
  probe : Script (Option SocketFault) := { current := none }
  handshake : Script (Option SocketFault) := { current := none }
  closed : Bool := false

inductive SecureSocket
  | stack (s : StackSocket)
  | tls (s : TlsSocket)

inductive Candidate
  | socket (s : SecureSocket)
  | other (typeName : String)

namespace Candidate

def asSocket : Candidate → Except Fault SecureSocket
  | socket s => .ok s
  | other typeName => .error (.wrongType (.notASocket typeName))

end Candidate

end PeerCheck.Session
