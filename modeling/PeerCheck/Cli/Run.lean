import PeerCheck.Cli.Arguments
import PeerCheck.Factory

/-!
# The host checker

Checks that a server's certificate speaks for a host: over the network, or offline with a
certificate from a file. What is found is printed as one JSON object. The exit code is 0 for a
passing verdict, 1 for any other, and 2 where the configuration, the certificate's file or the
connection is at fault.
-/

namespace PeerCheck.Cli

open PeerCheck.Cert PeerCheck.Config PeerCheck.Json PeerCheck.Log PeerCheck.Session PeerCheck.Text

def exitPassed : Nat := 0
def exitFailed : Nat := 1
def exitFault : Nat := 2

/-- Runs an act; a fault of some kind is handled. -/
def recovering {α : Type} (kind : Fault → Bool) (m : Act α) : Act (Except Fault α) :=
  tryCatch (Except.ok <$> m) fun e => if kind e then pure (.error e) else throw e

def printVerdict (v : Verdict) : Act Nat := do
  Act.print (Value.obj v.fields).pretty
  pure (if v.passed then exitPassed else exitFailed)

def printFault (message : String) : Act Nat := do
  Act.print (Value.obj [("passed", .bool false), ("error", .str message)]).pretty
  pure exitFault

/-- A text that is not empty. -/
def given? : Option String → Option String
  | some "" => none
  | s => s

/-- The settings of the named file, with the environment's overrides, or the defaults. -/
def settingsFor (file : Option String) : Act Settings := do
  match file with
  | none => pure .default
  | some path =>
    let w ← get
    Act.ofRecorded (load w.out.files w.environment path true)

def isConfigFault : Fault → Bool
  | .config _ => true
  | _ => false

def isLogSetupFault : Fault → Bool
  | .logSetup _ => true
  | _ => false

def isUnverified : Fault → Bool
  | .unverified _ => true
  | _ => false

def startLogging (folder : Spelling) (console : Bool) : Act Unit := do
  let w ← get
  let (outcome, journal, out) := w.journal.start w.clock folder { console := console } w.out
  set { w with journal := journal, out := out }
  ofExcept outcome

/-- The folder for logs: the one asked for, or else the configured one, if there is any. -/
def logFolder (a : Arguments) (s : Settings) : Option Spelling :=
  match given? a.logPath with
  | some folder => some folder
  | none => if s.logPath.isSet then some s.logPath.spelling else none

def printCheck (c : Certificate) (host : String) : Act Nat := do
  let (verdict, records) ← ofExcept (verifyCertificate c (some host))
  records.forM Act.emit
  printVerdict verdict

/-! ## Offline -/

def isLoadFault (e : Fault) : Bool := e.isOs || e.isValue

def certificateIn (path : String) : Act Certificate := do
  ofExcept ((← get).out.files.read (Path.tidy path) >>= Certificate.ofFile)

def checkFile (path host : String) : Act Nat := do
  match ← recovering isLoadFault (certificateIn path) with
  | .error e => printFault s!"Unable to load certificate '{path}': {e.message}"
  | .ok c => printCheck c host

/-! ## Over the network -/

def openSocket (a : Arguments) (settings : Option Settings) (host : String) : Act Nat := do
  let factory ← Factory.create settings
  Factory.createSocket factory (some host) (.int a.port)
    { localAddress := a.localAddress, timeout := a.connectTimeout.map Value.float }

/-- The certificate of a socket's peer, after which the socket is closed whatever happens. -/
def takeCertificate (n : Nat) : Act Certificate :=
  Act.converse n (tryFinally (do
    match (← get).socket with
    | .stack _ => throw (.wrongType .noCertificate)
    | .tls s =>
      match ← peerCertificate s with
      | none => throw (.wrongType .noCertificate)
      | some der => ofExcept (Certificate.ofDer der)) closeSocket)

def isConnectionFault (e : Fault) : Bool := e.isContextFault || e.isOs

def checkServer (a : Arguments) (settings : Option Settings) (host : String) : Act Nat := do
  let outcome ← recovering (fun e => isUnverified e || isConnectionFault e)
    (openSocket a settings host)
  match outcome with
  | .ok n => printCheck (← takeCertificate n) host
  | .error (.unverified u) => printVerdict (.ofUnverified u)
  | .error e =>
    let port := String.ofList (Text.decimalInt a.port)
    let message := s!"Connection to {host}:{port} failed: {e.message}"
    Act.emit (.of "check_host" .error message)
    printFault message

/-! ## The whole run -/

def check (a : Arguments) (settings : Settings) (host : String) : Act Nat :=
  match given? a.certFile with
  | some path => checkFile path host
  | none => checkServer a (if (given? a.config).isSome then some settings else none) host

/-- Sets logging up if it is asked for, and checks the host. -/
def runWith (a : Arguments) (settings : Settings) (host : String) : Act Nat := do
  match logFolder a settings with
  | none => check a settings host
  | some folder =>
    let console := a.debugConsole || settings.debugConsole.isSet
    match ← recovering isLogSetupFault (startLogging folder console) with
    | .error e => printFault e.message
    | .ok () => check a settings host

/-- Runs the checker with arguments that were read; the exit code. Where help is asked for, nothing is
checked. -/
def run (a : Arguments) : Act Nat := do
  match a.target? with
  | none => pure exitPassed
  | some host =>
    match ← recovering isConfigFault (settingsFor (given? a.config)) with
    | .error e => printFault e.message
    | .ok settings => runWith a settings host

end PeerCheck.Cli
