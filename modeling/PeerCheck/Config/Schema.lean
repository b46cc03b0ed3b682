import PeerCheck.Config.Fault

/-!
# The configuration schema

A configuration file holds an object. Its version is required; every other field has a default;
fields that are not known are refused unless the object allows them. A valid object is brought to
one shape: the version and all known fields in a fixed order, defaults filled in.
-/

namespace PeerCheck.Config

open PeerCheck.Json PeerCheck.Number

/-- The field that has no default. -/
def versionField : String := "schema_version"

def defaults : Fields := [
  ("algorithm", .str Algorithm.default.name),
  ("keystore_path", .str ""),
  ("keyfile_path", .str ""),
  ("keystore_password", .str ""),
  ("truststore_path", .str ""),
  ("truststore_password", .str ""),
  ("connect_timeout", .float (.ofNat 10)),
  ("socket_timeout", .null),
  ("local_address", .str ""),
  ("local_port", .int 0),
  ("log_path", .str ""),
  ("debug_console", .bool false),
  ("allow_unknown_keys", .bool false)]

def isKnown (key : String) : Bool := key = versionField || defaults.any (·.1 == key)

/-- The shape each field must have, in the order in which they are looked at. -/
def shapes : List (String × Shape) := [
  ("algorithm", .text), ("keystore_path", .text), ("keyfile_path", .text),
  ("keystore_password", .text), ("truststore_path", .text), ("truststore_password", .text),
  ("local_address", .text), ("log_path", .text), ("debug_console", .truth),
  ("allow_unknown_keys", .truth), ("connect_timeout", .number), ("socket_timeout", .numberOrNull),
  ("local_port", .whole)]

def Shape.holds : Shape → Value → Bool
  | text, .str _ | text, .broken _ => true
  | truth, .bool _ => true
  | number, v => v.isNumber
  | numberOrNull, v => v.isNull || v.isNumber
  | whole, .int _ => true
  | _, _ => false

/-- What a field of an object says, or else its default. -/
def fieldOf (raw : Fields) (key : String) : Value := raw.getD key (defaults.getD key .null)

def isVersion : Value → Bool
  | .int n => 1 ≤ n
  | _ => false

/-- The known fields of an object, defaults filled in. -/
def fill (raw : Fields) (version : Value) : Fields :=
  (versionField, version) :: defaults.map fun (key, _) => (key, fieldOf raw key)

def checkKeys (raw : Fields) : Except SchemaFault Unit :=
  match raw.find? fun (key, _) => !isKnown key with
  | some (key, _) => .error (.unknownKey key)
  | none => .ok ()

def checkShapes (fields : Fields) : Except SchemaFault Unit :=
  match shapes.find? fun (key, shape) => !shape.holds (fields.getD key .null) with
  | some (key, shape) => .error (.wrongShape key shape)
  | none => .ok ()

def checkAlgorithm : Value → Except SchemaFault Unit
  | .str s => if (Algorithm.ofName? s).isSome then .ok () else .error (.badAlgorithm s)
  | v => .error (.badAlgorithm v.plain)

/-- The shape of a valid object, or the first thing that is wrong with it. -/
def validateFields (raw : Fields) : Except SchemaFault Fields := do
  match raw.get? versionField with
  | none => .error (.missingField versionField)
  | some version =>
    if !isVersion version then .error .badVersion
    else
      let fields := fill raw version
      if !(fields.getD "allow_unknown_keys" .null).isSet then checkKeys raw
      checkShapes fields
      checkAlgorithm (fields.getD "algorithm" .null)
      .ok fields

def validate : Value → Except SchemaFault Fields
  | .obj raw => validateFields raw
  | _ => .error .notObject

end PeerCheck.Config
