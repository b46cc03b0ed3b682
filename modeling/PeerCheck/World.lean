import PeerCheck.Config.Load
import PeerCheck.Log.Setup
import PeerCheck.Tls.Bundle
import PeerCheck.Tls.Context
import PeerCheck.Verification

/-!
# The world

All that an operation can see and change: the files, the environment, the clock, the journal and
its outlets, the network and the TLS library, which answer from scripts, and the process-wide
factory. An act runs in the world, may fail, and leaves what it did: its calls and its records are
on the trail in order.
-/

namespace PeerCheck

open PeerCheck.Config PeerCheck.Log PeerCheck.Number PeerCheck.Session PeerCheck.Tls

/-- A plain socket: one that was connected, one handed in, or a duplicate. -/
inductive RawSocket
  | opened (n : Nat)
  | given
  | duplicate (of : RawSocket)
  deriving DecidableEq, Repr

inductive RawCall
  | setTimeout (v : Json.Value)
  | close
  | dup

inductive TrustSource
  | folder (path : Json.Value)
  | file (path : Json.Value)
  | data (certificates : List Armoured)

inductive ChainSource
  | file (path key : Json.Value)
  | temporary (content : List Armoured)

inductive ContextCall
  | loadRoots
  | loadTrust (source : TrustSource)
  | loadChain (source : ChainSource) (password : Json.Value)
  | wrap (raw : RawSocket) (host : String)

/-- The calls of a context that can fail. -/
inductive ContextMethod
  | loadRoots
  | loadTrust
  | loadChain
  | wrap
  deriving DecidableEq, Repr

namespace ContextCall

def method : ContextCall → ContextMethod
  | loadRoots => .loadRoots
  | loadTrust _ => .loadTrust
  | loadChain .. => .loadChain
  | wrap .. => .wrap

end ContextCall

inductive Call
  | createContext
  | context (c : ContextCall)
  | openBundle (text : List UInt8) (password : Option String)
  | connect (host : String) (port : Json.Value) (timeout : Json.Value)
      (source : Option (Json.Value × Json.Value))
  | raw (s : RawSocket) (c : RawCall)
  | tls (n : Nat) (c : SocketCall)

/-- A maker of verified sockets: its settings, its context and the ladder of its resolver. -/
structure Factory where
  settings : Settings
  context : Context
  ladder : Ladder := Ladder.default

/-- How the TLS library answers: the calls of a context that fail, what opening the content of a file
under a password comes to, whether a key can be encoded, and whether a temporary file can be made for
it and be written. -/
structure Library where
  faults : List (ContextMethod × Fault) := []
  opened : List UInt8 → Option String → Except Fault Bundle := Bundle.openFrom []
  exportFault : Option Fault := none
  temporaryFault : Option Fault := none

/-- How the network answers to attempts to connect, and whether a connection takes a timeout and can
be duplicated. -/
structure Network where
  connects : Script (Option Fault) := { current := none }
  timeoutFault : Option Fault := none
  duplicateFault : Option Fault := none

structure World where
  environment : Environment := {}
  clock : Binary64 := .ofNat 0
  journal : Journal := {}
  out : Outlets := {}
  library : Library := {}
  network : Network := {}
  wraps : Script (Except Fault TlsSocket)
  connected : Nat := 0
  sockets : List TlsSocket := []
  contexts : List Context := []
  temporaries : List (List Armoured) := []
  defaultFactory : Option Factory := none
  trail : List (Event Call) := []

abbrev Act := ExceptT Fault (StateM World)

namespace Act

def note (e : Event Call) : Act Unit := modify fun w => { w with trail := w.trail ++ [e] }

def call (c : Call) : Act Unit := note (.call c)

def check : Option Fault → Act Unit
  | none => pure ()
  | some e => throw e

/-- Emits a record: it is noted and delivered to the journal. -/
def emit (r : Record) : Act Unit := do
  note (.record r)
  modify fun w => { w with out := w.journal.deliver w.clock r w.out }

def callContext (c : ContextCall) : Act Unit := do
  call (.context c)
  match (← get).library.faults.lookup c.method with
  | some e => throw e
  | none => pure ()

def print (s : String) : Act Unit :=
  modify fun w => { w with out := { w.out with stdout := w.out.stdout ++ s ++ "\n" } }

/-- Runs what only leaves records. -/
def ofRecorded {α : Type} (m : Recorded α) : Act α := do
  let (r, records) := m.run []
  records.forM emit
  ofExcept r

/-- Repeats the trail of a dialogue with a socket. -/
def repeatTrail (n : Nat) : List (Event SocketCall) → Act Unit
  | [] => pure ()
  | .call c :: es => do call (.tls n c); repeatTrail n es
  | .record r :: es => do emit r; repeatTrail n es

def converse {α : Type} (n : Nat) (d : Dialogue α) : Act α := do
  match (← get).sockets[n - 1]? with
  | none => throw (.wrongType (.notASocket "int"))
  | some s =>
    let (r, t) := d.run ⟨.tls s, []⟩
    match t.socket with
    | .tls s => modify fun w => { w with sockets := w.sockets.set (n - 1) s }
    | .stack _ => pure ()
    repeatTrail n t.trail
    ofExcept r

end Act

end PeerCheck
