import PeerCheck.Config.Fault
import PeerCheck.Failure
import PeerCheck.Files.Fault
import PeerCheck.Json.Reader
import PeerCheck.Log.Template.Fault

/-!
# Faults

Everything that can stop an operation, by cause, with one wording for each. Faults raised outside
(by a socket or by the TLS library) are passed on as they came.
-/

namespace PeerCheck

inductive OutsideKind
  | os
  | connectionRefused
  | connectionReset
  | timedOut
  | nameResolution
  | tls
  | tlsVerification
  | value
  | type
  | runtime
  deriving DecidableEq, Repr

namespace OutsideKind

/-- Failures of the operating system, sockets and TLS included. -/
def isOs : OutsideKind → Bool
  | os | connectionRefused | connectionReset | timedOut | nameResolution | tls
  | tlsVerification => true
  | _ => false

/-- Unsuitable values. A failed certificate check is both of this family and of the system's. -/
def isValue : OutsideKind → Bool
  | value | tlsVerification => true
  | _ => false

end OutsideKind

/-- Why no secure context can be made. -/
inductive ContextFault
  | obsoleteAlgorithm
  | unknownAlgorithm (given : String)
  | bundle (path reason : String)
  | bundleWithoutKey (path : String)
  | bundleWithoutCertificates (path : String)
  | keystore (path reason : String)
  | truststore (path reason : String)
  deriving DecidableEq, Repr

namespace ContextFault

def message : ContextFault → String
  | obsoleteAlgorithm => "SSLv2 is not supported by the linked OpenSSL"
  | unknownAlgorithm given => s!"Unknown secure context algorithm '{given}'"
  | bundle path reason => s!"Unable to load PKCS#12 store '{path}': {reason}"
  | bundleWithoutKey path => s!"PKCS#12 keystore '{path}' has no private key entry"
  | bundleWithoutCertificates path => s!"PKCS#12 truststore '{path}' contains no certificates"
  | keystore path reason => s!"Unable to load keystore '{path}': {reason}"
  | truststore path reason => s!"Unable to load truststore '{path}': {reason}"

end ContextFault

/-- Why log files cannot be written. -/
inductive LogSetupFault
  | noFolder (path reason : String)
  | noFile (path reason : String)
  deriving DecidableEq, Repr

namespace LogSetupFault

def message : LogSetupFault → String
  | noFolder path reason => s!"Failed to create or access log path '{path}': {reason}"
  | noFile path reason => s!"Cannot write to log file '{path}': {reason}"

end LogSetupFault

/-- What of a value that was asked to do what its type cannot. -/
inductive TypeFault
  | notComparable (relation left right : String)
  | notAPath (typeName : String)
  | notASocket (typeName : String)
  | bitsAsText
  | noCertificate
  deriving DecidableEq, Repr

namespace TypeFault

def message : TypeFault → String
  | notComparable relation left right =>
    s!"'{relation}' not supported between instances of '{left}' and '{right}'"
  | notAPath typeName =>
    s!"stat: path should be string, bytes, os.PathLike or integer, not {typeName}"
  | notASocket typeName => s!"Expected an ssl.SSLSocket or SecureSocket, got {typeName}"
  | bitsAsText => "<undecodable subject>"
  | noCertificate => "argument 'data': 'NoneType' object cannot be converted to 'PyBytes'"

end TypeFault

inductive Fault
  | outside (kind : OutsideKind) (message : String)
  | unverified (u : Unverified)
  | config (c : Config.ConfigFault)
  | schema (c : Config.SchemaFault)
  | context (c : ContextFault)
  | connectTimedOut (host port seconds : String)
  | logSetup (c : LogSetupFault)
  | file (f : FileFault)
  | nullByte
  | unencodable (f : Text.EncodeFault)
  | tooDeep (nest : Json.Nest)
  | hostMissing
  | targetMissing
  | undecodableCertificate
  | unsupportedVersion (version : Nat)
  | undecodableSubject
  | unnamedTextType (tag : Nat)
  | wrongType (c : TypeFault)
  | lacksOperation (typeName operation : String)
  | wholeTooLarge
  | descriptorOutOfRange (above : Bool)
  | floatAsWhole (infinite : Bool)
  | timeOutOfRange (c : Log.TimeFault)
  | template (c : Log.TemplateFault)
  deriving DecidableEq, Repr

namespace Fault

def message : Fault → String
  | outside _ message => message
  | unverified u => u.message
  | config c => c.message
  | schema c => c.message
  | context c => c.message
  | connectTimedOut host port seconds => s!"Connect to {host}:{port} timed out after {seconds}s"
  | logSetup c => c.message
  | file f => f.message
  | nullByte => "embedded null byte"
  | unencodable f => f.message
  | tooDeep nest => nest.message
  | hostMissing => "host to verify was None"
  | targetMissing => "Target host may not be None"
  | undecodableCertificate => "<undecodable certificate>"
  | unsupportedVersion version => s!"{version} is not a valid X509 version"
  | undecodableSubject => "<undecodable subject>"
  | unnamedTextType tag => s!"{tag}"
  | wrongType c => c.message
  | lacksOperation typeName operation => s!"'{typeName}' object has no attribute '{operation}'"
  | wholeTooLarge => "int too large to convert to float"
  | descriptorOutOfRange true => "fd is greater than maximum"
  | descriptorOutOfRange false => "fd is less than minimum"
  | floatAsWhole true => "cannot convert float infinity to integer"
  | floatAsWhole false => "cannot convert float NaN to integer"
  | timeOutOfRange c => c.message
  | template c => c.message

/-- The family of system failures: those of files and sockets. -/
def isOs : Fault → Bool
  | outside kind _ => kind.isOs
  | connectTimedOut .. => true
  | file _ => true
  | timeOutOfRange c => c.isOs
  | _ => false

/-- The family of unsuitable values. -/
def isValue : Fault → Bool
  | outside kind _ => kind.isValue
  | schema (.notObject) | schema (.wrongShape ..) => false
  | schema _ => true
  | nullByte | unencodable _ | hostMissing | targetMissing | undecodableCertificate
  | undecodableSubject => true
  | floatAsWhole infinite => !infinite
  | timeOutOfRange c => c.isValue
  | template c => c.isValue
  | _ => false

/-- The faults that say no secure socket can be made of what is configured. -/
def isContextFault : Fault → Bool
  | context _ | connectTimedOut .. => true
  | _ => false

def isTimeout : Fault → Bool
  | outside .timedOut _ => true
  | connectTimedOut .. => true
  | _ => false

end Fault

end PeerCheck
