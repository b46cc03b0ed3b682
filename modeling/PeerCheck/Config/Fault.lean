import PeerCheck.Config.Algorithm
import PeerCheck.Json.Display

/-!
# Configuration faults

`SchemaFault` says what is wrong with the value read from a configuration file, `ConfigFault` why
no configuration comes of a file or of a set of fields.
-/

namespace PeerCheck.Config

open PeerCheck.Json

/-- What a field's value has to be. -/
inductive Shape
  | text
  | truth
  | number
  | numberOrNull
  | whole
  deriving DecidableEq, Repr

namespace Shape

def phrase : Shape → String
  | text => "a string"
  | truth => "a boolean"
  | number => "a number"
  | numberOrNull => "a number or null"
  | whole => "an integer"

end Shape

def badAlgorithmMessage (given : String) : String :=
  s!"Invalid algorithm '{given}'. Must be one of {Algorithm.listing}"

inductive SchemaFault
  | notObject
  | missingField (field : String)
  | badVersion
  | unknownKey (key : String)
  | wrongShape (field : String) (shape : Shape)
  | badAlgorithm (given : String)
  deriving DecidableEq, Repr

namespace SchemaFault

def message : SchemaFault → String
  | notObject => "configuration root must be a JSON object"
  | missingField field => s!"Missing required field '{field}' in .tlsguardrc"
  | badVersion => "schema_version must be an integer >= 1"
  | unknownKey key => s!"Unknown config key '{key}' but allow_unknown_keys=false"
  | wrongShape field shape => s!"{field} must be {shape.phrase}"
  | badAlgorithm given => badAlgorithmMessage given

end SchemaFault

inductive ConfigFault
  | missingFile (path : String)
  | unreadableFile (path reason : String)
  | badSchema (fault : SchemaFault)
  | badVariable (name given : String)
  | badAlgorithm (given : String)
  | timeoutNotNumber (reason : String)
  | negativeConnectTimeout
  | negativeSocketTimeout
  | portOutOfRange (given : String)
  | portWithoutAddress
  | keyFileWithoutKeystore
  | passwordWithoutKeystore
  | passwordWithoutTruststore
  deriving DecidableEq, Repr

namespace ConfigFault

def message : ConfigFault → String
  | missingFile path => s!"config file not found at: {path}"
  | unreadableFile path reason => s!"Unable to load JSON from '{path}': {reason}"
  | badSchema fault => s!"Schema validation failed: {fault.message}"
  | badVariable name given => s!"{name} must be a number, got '{given}'"
  | badAlgorithm given => badAlgorithmMessage given
  | timeoutNotNumber reason => s!"connect_timeout must be a number: {reason}"
  | negativeConnectTimeout => "connect_timeout must be >= 0 (0 means no timeout)"
  | negativeSocketTimeout => "socket_timeout must be >= 0 or null"
  | portOutOfRange given => s!"local_port {given} out of range 0-65535"
  | portWithoutAddress => "local_port requires local_address"
  | keyFileWithoutKeystore => "Incoherent config: keyfile_path set but keystore_path is empty."
  | passwordWithoutKeystore =>
    "Incoherent config: keystore_password set but keystore_path is empty."
  | passwordWithoutTruststore =>
    "Incoherent config: truststore_password set but truststore_path is empty."

end ConfigFault

end PeerCheck.Config
