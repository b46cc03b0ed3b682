import PeerCheck.Config.Schema
import PeerCheck.Fault
import PeerCheck.Number.Reading

/-!
# Settings

The settings taken from a set of fields: what the fields say, or else the defaults. The algorithm
is one of the supported ones and the connect timeout a number; the other values stay as they were
given, so far as the checks let them pass. An empty text means that nothing is configured.
-/

namespace PeerCheck.Config

open PeerCheck.Json PeerCheck.Number PeerCheck.Text

structure Settings where
  raw : Fields
  schemaVersion : Value
  algorithm : Algorithm
  keystorePath : Value
  keyfilePath : Value
  keystorePassword : Value
  truststorePath : Value
  truststorePassword : Value
  connectTimeout : Binary64
  socketTimeout : Value
  localAddress : Value
  localPort : Value
  logPath : Value
  debugConsole : Value

/-- The fault of a text that writes no number, given in quotes. -/
def notFloat (quoted : List Char) : Fault :=
  let shown := String.ofList quoted
  .config (.timeoutNotNumber s!"could not convert string to float: {shown}")

/-- The number a value stands for, a text being read; or why it stands for none. -/
def readNumber : Value → Except Fault Binary64
  | .float x => .ok x
  | .bool b => .ok (.ofNat (if b then 1 else 0))
  | .int n => (Binary64.ofInt? n).elim (.error .wholeTooLarge) .ok
  | .str s =>
    match readFloat? s.toList with
    | some x => .ok x
    | none => .error (notFloat (quoted s.toList))
  | .broken b => .error (notFloat b.quoted)
  | v =>
    .error (.config (.timeoutNotNumber
      s!"float() argument must be a string or a real number, not '{v.typeName}'"))

/-- Whether a value, which has to be a number or a truth value, is below zero. -/
def isNegative : Value → Except Fault Bool
  | .int n => .ok (n < 0)
  | .float x => .ok (x.lt .zero)
  | .bool _ => .ok false
  | v => .error (.wrongType (.notComparable "<" v.typeName "int"))

def maxPort : Nat := 65535

/-- Whether a value, which has to be a number or a truth value, is in the range of ports. -/
def isPort : Value → Except Fault Bool
  | .int n => .ok (0 ≤ n && n ≤ maxPort)
  | .float x => .ok (Binary64.zero.le x && x.le (.ofNat maxPort))
  | .bool _ => .ok true
  | v => .error (.wrongType (.notComparable "<=" "int" v.typeName))

def algorithmOf : Value → Except Fault Algorithm
  | .str s =>
    match Algorithm.ofName? s with
    | some a => .ok a
    | none => .error (.config (.badAlgorithm s))
  | v => .error (.config (.badAlgorithm v.plain))

def refuseIf (bad : Bool) (c : ConfigFault) : Except Fault Unit :=
  if bad then .error (.config c) else .ok ()

namespace Settings

/-- The timeouts: the connect timeout becomes a number, and neither may be below zero. -/
def timeouts (connect socket : Value) : Except Fault Binary64 := do
  let x ← readNumber connect
  refuseIf (x.lt .zero) .negativeConnectTimeout
  if !socket.isNull then refuseIf (← isNegative socket) .negativeSocketTimeout
  .ok x

/-- A local port is in range and comes with an address. -/
def checkBind (address port : Value) : Except Fault Unit := do
  refuseIf (!(← isPort port)) (.portOutOfRange port.plain)
  refuseIf (port.isSet && !address.isSet) .portWithoutAddress

/-- A key file or a password needs a store. -/
def checkCoherence (s : Settings) : Except Fault Unit := do
  refuseIf (s.keyfilePath.isSet && !s.keystorePath.isSet) .keyFileWithoutKeystore
  refuseIf (s.keystorePassword.isSet && !s.keystorePath.isSet) .passwordWithoutKeystore
  refuseIf (s.truststorePassword.isSet && !s.truststorePath.isSet) .passwordWithoutTruststore

/-- The settings of a set of fields. A field that is not given falls back on the schema's default for
the algorithm and the connect timeout, and on a value written here for the rest. -/
def ofFields (raw : Fields) : Except Fault Settings := do
  let algorithm ← algorithmOf (fieldOf raw "algorithm")
  let socketTimeout := raw.getD "socket_timeout" .null
  let localAddress := raw.getD "local_address" (.str "")
  let localPort := raw.getD "local_port" (.int 0)
  let connectTimeout ← timeouts (fieldOf raw "connect_timeout") socketTimeout
  checkBind localAddress localPort
  let settings : Settings := {
    raw := raw
    schemaVersion := raw.getD versionField (.int 1)
    algorithm := algorithm
    keystorePath := raw.getD "keystore_path" (.str "")
    keyfilePath := raw.getD "keyfile_path" (.str "")
    keystorePassword := raw.getD "keystore_password" (.str "")
    truststorePath := raw.getD "truststore_path" (.str "")
    truststorePassword := raw.getD "truststore_password" (.str "")
    connectTimeout := connectTimeout
    socketTimeout := socketTimeout
    localAddress := localAddress
    localPort := localPort
    logPath := raw.getD "log_path" (.str "")
    debugConsole := raw.getD "debug_console" (.bool false) }
  settings.checkCoherence
  .ok settings

def ofValue : Value → Except Fault Settings
  | .obj raw => ofFields raw
  | v => .error (.lacksOperation v.typeName "get")

/-- The fields that give every default. -/
def defaultFields : Fields := [(versionField, .int 1)]

def default : Settings where
  raw := defaultFields
  schemaVersion := .int 1
  algorithm := .default
  keystorePath := .str ""
  keyfilePath := .str ""
  keystorePassword := .str ""
  truststorePath := .str ""
  truststorePassword := .str ""
  connectTimeout := .ofNat 10
  socketTimeout := .null
  localAddress := .str ""
  localPort := .int 0
  logPath := .str ""
  debugConsole := .bool false

end Settings

end PeerCheck.Config
