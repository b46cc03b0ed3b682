/-!
# Log records

A record has the name of the logger it was emitted on, a level and a message. Each subsystem of
the library has a logger of its own below a common one.
-/

namespace PeerCheck.Log

inductive Level
  | debug
  | info
  | warning
  | error
  | critical
  deriving DecidableEq, Repr

namespace Level

def name : Level → String
  | debug => "DEBUG"
  | info => "INFO"
  | warning => "WARNING"
  | error => "ERROR"
  | critical => "CRITICAL"

def rank : Level → Nat
  | debug => 10
  | info => 20
  | warning => 30
  | error => 40
  | critical => 50

def all : List Level := [debug, info, warning, error, critical]

def ofName? (s : String) : Option Level := all.find? (·.name == s)

end Level

def loggerName (subsystem : String) : String := "tlsguard." ++ subsystem

/-- The name of the logger above all others. -/
def rootName : String := "root"

structure Record where
  logger : String
  level : Level
  message : String
  deriving DecidableEq, Repr

namespace Record

def of (subsystem : String) (level : Level) (message : String) : Record :=
  ⟨loggerName subsystem, level, message⟩

end Record

/-- Names that open the message of a record about a notable event. -/
inductive EventCode
  | sessionEstablished
  | handshakeForced
  | sessionUnavailable
  | hostnameVerified
  | hostnameMismatch
  | noCommonName
  | configLoaded
  deriving DecidableEq, Repr

namespace EventCode

def name : EventCode → String
  | sessionEstablished => "TLS_SESSION_ESTABLISHED"
  | handshakeForced => "TLS_HANDSHAKE_FORCED"
  | sessionUnavailable => "TLS_SESSION_UNAVAILABLE"
  | hostnameVerified => "HOSTNAME_VERIFIED"
  | hostnameMismatch => "HOSTNAME_MISMATCH"
  | noCommonName => "CERT_NO_COMMON_NAME"
  | configLoaded => "CONFIG_LOADED"

def all : List EventCode :=
  [sessionEstablished, handshakeForced, sessionUnavailable, hostnameVerified, hostnameMismatch,
    noCommonName, configLoaded]

def ofName? (s : String) : Option EventCode := all.find? (·.name == s)

end EventCode

end PeerCheck.Log
