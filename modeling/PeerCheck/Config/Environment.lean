import PeerCheck.Config.Settings
import PeerCheck.Log.Record

/-!
# Environment overrides

Four variables of the environment override a field each. Every override is recorded, passwords
without their values.
-/

namespace PeerCheck

/-- What may fail and leaves records either way. -/
abbrev Recorded := ExceptT Fault (StateM (List Log.Record))

def Recorded.emit (r : Log.Record) : Recorded Unit := modify (· ++ [r])

end PeerCheck

namespace PeerCheck.Config

open PeerCheck.Json PeerCheck.Log PeerCheck.Number PeerCheck.Text

/-- What a run finds around it: the variables, and how deep a text may be nested to be read. -/
structure Environment where
  bindings : List (String × Spelling) := []
  room : Nat := 900

def Environment.lookup (env : Environment) (name : String) : Option Spelling :=
  env.bindings.lookup name

/-- The name of a variable, the field it overrides, whether its value is a number or a secret. -/
structure Override where
  name : String
  field : String
  isNumber : Bool := false
  isSecret : Bool := false
  deriving DecidableEq, Repr

def overrides : List Override := [
  { name := "TLSGUARD_ALGORITHM", field := "algorithm" },
  { name := "TLSGUARD_CONNECT_TIMEOUT", field := "connect_timeout", isNumber := true },
  { name := "TLSGUARD_KEYSTORE_PASSWORD", field := "keystore_password", isSecret := true },
  { name := "TLSGUARD_TRUSTSTORE_PASSWORD", field := "truststore_password", isSecret := true }]

namespace Override

def value (o : Override) (text : Spelling) : Except Fault Value :=
  if o.isNumber then
    match floatIn? text with
    | some x => .ok (.float x)
    | none => .error (.config (.badVariable o.name text.shown))
  else .ok (.ofText text)

def record (o : Override) (old new : Value) : Record :=
  .of "config" .info
    (if o.isSecret then s!"Environment overrides {o.field}"
    else s!"Environment overrides {o.field}: {old.plain} -> {new.plain}")

/-- Applies one override to the merged fields, where its variable is set. -/
def apply (env : Environment) (raw merged : Fields) (o : Override) : Recorded Fields := do
  match env.lookup o.name with
  | none => pure merged
  | some text =>
    let v ← ofExcept (o.value text)
    Recorded.emit (o.record (raw.getD o.field .null) v)
    pure (merged.put o.field v)

end Override

/-- The fields with all overrides applied. -/
def applyEnvironment (env : Environment) (raw : Fields) : Recorded Fields :=
  overrides.foldlM (fun merged o => o.apply env raw merged) raw

end PeerCheck.Config
