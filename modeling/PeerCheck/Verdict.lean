import PeerCheck.Cert.CommonName
import PeerCheck.Fault
import PeerCheck.Host.Match
import PeerCheck.Json.Value

/-!
# Verdicts

The outcome of a verification: passed, or failed for one reason, with the values that were compared.
The verdict on a subject follows from its common name and the host alone.
-/

namespace PeerCheck

open PeerCheck.Host PeerCheck.Log PeerCheck.Cert

structure Verdict where
  failure : Option Failure
  message : String
  host : Option String
  commonName : Option String
  subject : Option String
  deriving DecidableEq, Repr

namespace Verdict

def passed (v : Verdict) : Bool := v.failure.isNone

def pass (host commonName subject : String) : Verdict :=
  ⟨none, "hostname verified", some host, some commonName, some subject⟩

def ofUnverified (u : Unverified) : Verdict :=
  ⟨some u.failure, u.message, u.host, u.commonName, u.subject⟩

/-- Lets a passing verdict through; a failed one becomes the fault it reports. -/
def require (v : Verdict) : Except Fault Verdict :=
  match v.failure with
  | none => .ok v
  | some failure => .error (.unverified ⟨failure, v.message, v.host, v.commonName, v.subject⟩)

def fields (v : Verdict) : Json.Fields :=
  let text (s : Option String) : Json.Value := (s.map Json.Value.str).getD .null
  [("passed", .bool v.passed), ("failure", text (v.failure.map Failure.name)),
    ("message", .str v.message), ("host", text v.host), ("common_name", text v.commonName),
    ("subject", text v.subject)]

def nameless (host subject : String) : Verdict :=
  .ofUnverified {
    failure := .noCommonName
    message := s!"certificate doesn't contain CN: {subject}"
    host := some host
    subject := some subject }

/-- A common name that is not the host's; reported are the values as they were compared. -/
def mismatch (host commonName subject : String) : Verdict :=
  let host := normalizeHost host
  let commonName := normalizeName commonName
  .ofUnverified {
    failure := .hostMismatch
    message := s!"hostname in certificate didn't match: <{host}> != <{commonName}>"
    host := some host
    commonName := some commonName
    subject := some subject }

def ofSubject (subject host : String) : Verdict :=
  match commonName? subject with
  | none => nameless host subject
  | some cn => if agrees host cn then pass host cn subject else mismatch host cn subject

/-- The record that reports a verdict for a requested host. -/
def record (host : String) (v : Verdict) : Record :=
  match v.failure with
  | none =>
    let host := String.ofList (Text.trim host.toList)
    let cn := v.commonName.getD ""
    .of "verifier" .info s!"{EventCode.hostnameVerified.name}: host={host}, cn={cn}"
  | some .noCommonName =>
    .of "verifier" .warning s!"{EventCode.noCommonName.name}: {v.message}"
  | some _ => .of "verifier" .warning s!"{EventCode.hostnameMismatch.name}: {v.message}"

/-- The records of the verification of a written subject: a wildcard may be vetoed, then the
verdict is reported. -/
def records (subject host : String) : List Record :=
  let veto := match commonName? subject with
    | some cn => matchRecords cn
    | none => []
  veto ++ [record host (ofSubject subject host)]

end Verdict

end PeerCheck
