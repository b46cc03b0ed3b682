import PeerCheck.Session.Recovery
import PeerCheck.Verdict

/-!
# Verification

A certificate is verified by its written subject, a socket by the first certificate of its session,
which is recovered if need be. Only the lack of a session becomes a verdict; any other fault of the
socket ends the verification as it is.
-/

namespace PeerCheck

open PeerCheck.Session PeerCheck.Cert PeerCheck.Log

def verifyCertificate (c : Certificate) (host : Option String) :
    Except Fault (Verdict × List Record) := do
  match host with
  | none => .error .hostMissing
  | some host =>
    let subject ← c.subject.render
    .ok (Verdict.ofSubject subject host, Verdict.records subject host)

namespace Session

/-- The certificate of the peer itself in a session that has certificates. -/
def leafOf (s : Session) : Certificate := s.leaf?.getD (.ofSubject "")

def verifySession (s : Session) (host : String) : Dialogue Verdict := do
  let (verdict, records) ← ofExcept (verifyCertificate (leafOf s) (some host))
  Dialogue.emitAll records
  pure verdict

/-- The session, or the failure that there is none; any other fault goes on. -/
def resolveOrLack (l : Ladder) : Dialogue (Except Unverified Session) :=
  tryCatch (Except.ok <$> resolve l) fun
    | .unverified u =>
      if u.failure = .sessionUnavailable then pure (.error u) else throw (.unverified u)
    | e => throw e

def lacking (host : String) (u : Unverified) : Verdict :=
  .ofUnverified { failure := .sessionUnavailable, message := u.message, host := some host }

/-- The verdict on a socket's peer for a host. -/
def verify (l : Ladder) (host : Option String) : Dialogue Verdict := do
  match host with
  | none => throw .hostMissing
  | some host =>
    match ← resolveOrLack l with
    | .error u => pure (lacking host u)
    | .ok s => verifySession s host

/-- Like `verify`, where only a passing verdict is let through. -/
def verifyHost (l : Ladder) (host : Option String) : Dialogue Verdict := do
  ofExcept (← verify l host).require

/-- The verdict on what is handed in as a socket; the host is looked at first. -/
def Candidate.verify (c : Candidate) (l : Ladder) (host : Option String) : Exchange Verdict :=
  if host.isNone then ⟨.error .hostMissing, [], c⟩ else c.converse (Session.verify l host)

/-- Like `Candidate.verify`, where only a passing verdict is let through. -/
def Candidate.verifyHost (c : Candidate) (l : Ladder) (host : Option String) : Exchange Verdict :=
  if host.isNone then ⟨.error .hostMissing, [], c⟩ else c.converse (Session.verifyHost l host)

end Session

end PeerCheck
