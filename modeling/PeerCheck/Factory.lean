import PeerCheck.Digest.Sha256
import PeerCheck.Tls.Stores

/-!
# The socket factory

A factory connects, wraps the connection in TLS and verifies the peer before it hands the socket
out; a socket that fails verification is closed. It can also layer TLS over a connection that is
there already, over a duplicate where the caller keeps the connection.
-/

namespace PeerCheck.Factory

open PeerCheck.Config PeerCheck.Json PeerCheck.Log PeerCheck.Session PeerCheck.Tls

/-- A factory for settings, or the platform's where there are none. -/
def create (settings : Option Settings) (ladder : Ladder := Ladder.default) : Act Factory := do
  let context ← createContext settings
  pure ⟨settings.getD .default, context, ladder⟩

def withContext (settings : Option Settings) (ladder : Ladder := Ladder.default) : Factory :=
  ⟨settings.getD .default, { origin := .given }, ladder⟩

def ofFile (path : String) (useEnvironment : Bool) : Act Factory := do
  let w ← get
  let settings ← Act.ofRecorded (load w.out.files w.environment path useEnvironment)
  create (some settings)

/-- The process-wide factory, made when it is first asked for. -/
def shared : Act Factory := do
  match (← get).defaultFactory with
  | some f => pure f
  | none =>
    let f ← create none
    modify fun w => { w with defaultFactory := some f }
    pure f

/-! ## Connecting -/

/-- What a caller may ask for beyond host and port. -/
structure Wishes where
  localAddress : Option String := none
  localPort : Value := .int 0
  timeout : Option Value := none

/-- The timeout: the caller's, or else the configured one. -/
def timeoutFor (s : Settings) (w : Wishes) : Value :=
  match w.timeout with
  | none | some .null => .float s.connectTimeout
  | some t => t

/-- The local address: the caller's, or else the configured one, if there is any. -/
def addressFor (s : Settings) (w : Wishes) : Option Value :=
  match w.localAddress with
  | some a => if a != "" then some (.str a) else configured
  | none => configured
where
  configured : Option Value := if s.localAddress.isSet then some s.localAddress else none

/-- The address and port to bind to, where there is an address. -/
def sourceFor (s : Settings) (w : Wishes) : Option (Value × Value) :=
  (addressFor s w).map fun a => (a, if w.localPort.isSet then w.localPort else s.localPort)

/-- Connects; a connection attempt that ran out of time says so. -/
def connect (s : Settings) (host : String) (port : Value) (wishes : Wishes) : Act RawSocket := do
  let timeout := timeoutFor s wishes
  Act.call (.connect host port (orNull timeout) (sourceFor s wishes))
  let network := (← get).network
  modify fun w => { w with network := { network with connects := network.connects.advance } }
  match network.connects.current with
  | some e =>
    throw (if e.isTimeout then
      .connectTimedOut host port.plain timeout.plain else e)
  | none =>
    let n := (← get).connected + 1
    modify fun w => { w with connected := n }
    pure (.opened n)

def setTimeout (raw : RawSocket) (timeout : Value) : Act Unit := do
  Act.call (.raw raw (.setTimeout timeout))
  Act.check (← get).network.timeoutFault

def duplicate (raw : RawSocket) : Act RawSocket := do
  Act.call (.raw raw .dup)
  Act.check (← get).network.duplicateFault
  pure (.duplicate raw)

/-- Wraps a connection in TLS; the number of the new socket, which is open. -/
def wrap (raw : RawSocket) (host : String) : Act Nat := do
  Act.callContext (.wrap raw host)
  let w ← get
  set { w with wraps := w.wraps.advance }
  match w.wraps.current with
  | .error e => throw e
  | .ok s =>
    modify fun w => { w with sockets := w.sockets ++ [{ s with closed := false }] }
    pure (w.sockets.length + 1)

/-! ## Verifying -/

def establishedRecord (host : String) (port : Value) (version cipher : Option String)
    (certificate : Option (List UInt8)) : Record :=
  let fingerprint := match certificate with
    | none | some [] => "NO_CERT"
    | some der => Digest.fingerprint der
  let version := version.getD "None"
  let cipher := cipher.getD "unknown"
  .of "socket_factory" .info
    (s!"{EventCode.sessionEstablished.name}: host={host}, port={port.plain}, protocol={version}, " ++
      s!"cipher={cipher}, fingerprint={fingerprint}")

def reportSession (host : String) (port : Value) : Dialogue Unit := do
  match (← get).socket with
  | .stack _ => pure ()
  | .tls s =>
    let certificate ← peerCertificate s
    let cipher ← ofExcept (heard s.reportedCipher)
    let version ← ofExcept (heard s.reportedVersion)
    Dialogue.emit (establishedRecord host port version cipher certificate)

/-- Verifies the peer of a socket and closes the socket if that fails. -/
def verifyOrClose (ladder : Ladder) (host : String) : Dialogue Unit :=
  tryCatch (do let _ ← verifyHost ladder (some host)) fun e => do
    closeSocket
    throw e

/-- Verifies the peer of a socket and reports its session. -/
def vouch (ladder : Ladder) (host : String) (port : Value) : Dialogue Unit := do
  verifyOrClose ladder host
  reportSession host port

/-! ## Sockets -/

/-- Wraps a connection of the factory's own and closes it if that fails. -/
def wrapOrClose (raw : RawSocket) (host : String) : Act Nat :=
  tryCatch (wrap raw host) fun e => do
    if e.isOs || e.isValue then Act.call (.raw raw .close)
    throw e

def createSocket (f : Factory) (host : Option String) (port : Value) (wishes : Wishes) : Act Nat := do
  match host with
  | none => throw .targetMissing
  | some host =>
    let raw ← connect f.settings host port wishes
    setTimeout raw f.settings.socketTimeout
    let n ← wrapOrClose raw host
    Act.converse n (vouch f.ladder host port)
    pure n

/-- A verified socket over a connection that is there already. -/
def createLayered (f : Factory) (raw : RawSocket) (host : Option String) (port : Value)
    (autoClose : Bool) : Act Nat := do
  match host with
  | none => throw .targetMissing
  | some host =>
    let raw ← if autoClose then pure raw else duplicate raw
    let n ← wrap raw host
    Act.converse n (vouch f.ladder host port)
    pure n

end PeerCheck.Factory
