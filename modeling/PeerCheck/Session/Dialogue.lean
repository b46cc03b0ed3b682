import PeerCheck.Log.Record
import PeerCheck.Session.Socket

/-!
# Dialogues with a socket

A dialogue asks one socket, may fail, and leaves a trail: the calls it made and the records it
emitted, in order. What it did stays on the trail when it fails.
-/

namespace PeerCheck.Session

open PeerCheck.Log PeerCheck.Cert

/-- A call on a socket. The first three are those of a stack's socket. -/
inductive SocketCall
  | session
  | probe
  | handshake
  | certificate
  | chain
  | pending
  | doHandshake
  | close
  deriving DecidableEq, Repr

end PeerCheck.Session

namespace PeerCheck

/-- What happens in the course of an operation: a call on an outside party, or a log record. -/
inductive Event (Call : Type)
  | call (c : Call)
  | record (r : Log.Record)
  deriving DecidableEq, Repr

end PeerCheck

namespace PeerCheck.Session

open PeerCheck.Log PeerCheck.Cert

/-- The socket under question and the trail so far. -/
structure Talk where
  socket : SecureSocket
  trail : List (Event SocketCall) := []

abbrev Dialogue := ExceptT Fault (StateM Talk)

namespace Dialogue

def note (e : Event SocketCall) : Dialogue Unit := modify fun t => { t with trail := t.trail ++ [e] }

def call (c : SocketCall) : Dialogue Unit := note (.call c)

def emit (r : Record) : Dialogue Unit := note (.record r)

def emitAll : List Record → Dialogue Unit
  | [] => pure ()
  | r :: rs => do emit r; emitAll rs

def setSocket (s : SecureSocket) : Dialogue Unit := modify fun t => { t with socket := s }

def check : Option SocketFault → Dialogue Unit
  | none => pure ()
  | some e => throw e.val

end Dialogue

open Dialogue

def peerCertificate (s : TlsSocket) : Dialogue (Option (List UInt8)) := do
  call .certificate
  setSocket (.tls { s with certificate := s.certificate.advance })
  ofExcept (heard s.certificate.current)

/-- The certificate, where a value fault says that the handshake is still to be done. -/
def peerCertificateYet (s : TlsSocket) : Dialogue (Option (List UInt8)) := do
  call .certificate
  setSocket (.tls { s with certificate := s.certificate.advance })
  match s.certificate.current with
  | .ok der => pure der
  | .error e => if e.val.isValue then pure none else throw e.val

/-- The chain a TLS socket tells, read in; empty where it tells none. -/
def peerChain (s : TlsSocket) : Dialogue (List Certificate) :=
  match s.chain with
  | none => pure []
  | some answer => do
    call .chain
    ofExcept (heard answer >>= List.mapM Certificate.ofDer)

/-- The session seen through a TLS socket: its chain, or the one certificate of the peer. -/
def sessionOver (s : TlsSocket) : Dialogue (Option Session) := do
  match ← peerCertificateYet s with
  | none | some [] => pure none
  | some der =>
    let chain ← peerChain s
    let chain ← if chain.isEmpty then ofExcept ((Certificate.ofDer der).map ([·])) else pure chain
    let cipher ← ofExcept (heard s.cipher)
    let version ← ofExcept (heard s.version)
    pure (some ⟨chain, version, cipher⟩)

/-- The negotiated session, if there is one yet. -/
def getSession : Dialogue (Option Session) := do
  match (← get).socket with
  | .stack s =>
    call .session
    setSocket (.stack { s with sessions := s.sessions.advance })
    ofExcept (heard s.sessions.current)
  | .tls s => sessionOver s

def probeInput : Dialogue Unit := do
  match (← get).socket with
  | .stack s =>
    call .probe
    setSocket (.stack { s with probe := s.probe.advance })
    check s.probe.current
  | .tls s =>
    call .pending
    setSocket (.tls { s with probe := s.probe.advance })
    check s.probe.current

def startHandshake : Dialogue Unit := do
  match (← get).socket with
  | .stack s =>
    call .handshake
    setSocket (.stack { s with handshake := s.handshake.advance })
    check s.handshake.current
  | .tls s =>
    call .doHandshake
    setSocket (.tls { s with handshake := s.handshake.advance })
    check s.handshake.current

/-- Closes a socket; a TLS socket remembers it. -/
def closeSocket : Dialogue Unit := do
  call .close
  match (← get).socket with
  | .stack _ => pure ()
  | .tls s => setSocket (.tls { s with closed := true })

/-- What a dialogue with a candidate leaves: its outcome, its trail, and the candidate after it. -/
structure Exchange (α : Type) where
  outcome : Except Fault α
  trail : List (Event SocketCall)
  candidate : Candidate

/-- Holds a dialogue with a candidate, which has to be a socket. -/
def Candidate.converse {α : Type} (c : Candidate) (d : Dialogue α) : Exchange α :=
  match c.asSocket with
  | .error e => ⟨.error e, [], c⟩
  | .ok s =>
    let (r, t) := d.run ⟨s, []⟩
    ⟨r, t.trail, .socket t.socket⟩

end PeerCheck.Session
