import PeerCheck.Session.Dialogue

/-!
# Recovering a session

Some stacks report a connected socket before the handshake has left a session. The ladder is a list
of steps to take then: after each the session is asked for again, and the first that has a
certificate ends the climb. A ladder climbed in vain is a failure; nothing goes on without a
session. A step presses the socket in one of its two ways, or does nothing; a ladder may take any
steps, in any order and more than once, but none that does something else.
-/

namespace PeerCheck.Session

open PeerCheck.Log Dialogue

inductive Action
  | probeInput
  | startHandshake
  | nothing
  deriving DecidableEq, Repr

def Action.run : Action → Dialogue Unit
  | probeInput => Session.probeInput
  | startHandshake => Session.startHandshake
  | nothing => pure ()

structure Step where
  name : String
  action : Action
  event : Option EventCode := none
  deriving DecidableEq, Repr

abbrev Ladder := List Step

namespace Step

def probe : Step := ⟨"probe_input", .probeInput, none⟩
def handshake : Step := ⟨"start_handshake", .startHandshake, some .handshakeForced⟩

end Step

namespace Ladder

def default : Ladder := [.probe, .handshake]

def names (l : Ladder) : String := String.intercalate ", " (l.map (·.name))

end Ladder

/-- A session without a certificate has nothing to verify. -/
def usable : Option Session → Option Session
  | some s => if s.chain.isEmpty then none else some s
  | none => none

def stepRecord (s : Step) : Record :=
  let lead := match s.event with
    | some e => e.name ++ ": "
    | none => ""
  .of "session" .warning s!"{lead}TLS session not available, running {s.name}"

def recoveredRecord (s : Step) : Record :=
  .of "session" .info s!"TLS session recovered after step={s.name}"

def exhaustedRecord (l : Ladder) : Record :=
  .of "session" .error s!"{EventCode.sessionUnavailable.name}: no TLS session after steps=[{l.names}]"

/-- The failure of a ladder climbed in vain. -/
def exhausted (l : Ladder) : Unverified :=
  { failure := .sessionUnavailable
    message := s!"TLS session unavailable after recovery steps: {l.names}" }

/-- Takes one step and asks for the session again. -/
def attempt (s : Step) : Dialogue (Option Session) := do
  emit (stepRecord s)
  s.action.run
  return usable (← getSession)

/-- Takes the steps in order until one brings a session. -/
def climb : Ladder → Dialogue (Option Session)
  | [] => pure none
  | s :: rest => do
    match ← attempt s with
    | some session =>
      emit (recoveredRecord s)
      pure (some session)
    | none => climb rest

/-- The session, recovered if need be; none if the whole ladder was in vain. -/
def recover (l : Ladder) : Dialogue (Option Session) := do
  match usable (← getSession) with
  | some session => pure (some session)
  | none =>
    match ← climb l with
    | some session => pure (some session)
    | none =>
      emit (exhaustedRecord l)
      pure none

/-- The session, or the failure that there is none. -/
def resolve (l : Ladder) : Dialogue Session := do
  match ← recover l with
  | some session => pure session
  | none => throw (.unverified (exhausted l))

end PeerCheck.Session
