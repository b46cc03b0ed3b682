import PeerCheck.Log.Line
import PeerCheck.Log.Template

/-!
# Drafts

A draft is what a caller hands to a logger: a message template and its arguments, of which a record
is made.
-/

namespace PeerCheck.Log

open PeerCheck.Json PeerCheck.Number

structure Draft where
  logger : String
  level : Level
  template : String
  arguments : List Value

namespace Draft

def record (d : Draft) : Except Fault Record :=
  match formatMessage d.template d.arguments with
  | .ok message => .ok ⟨d.logger, d.level, message⟩
  | .error c => .error (.template c)

/-- The line for a draft made at a time in seconds. The time is looked at first. -/
def line (d : Draft) (created : Binary64) (report : Option Report) : Except Fault String := do
  let time ← (timestamp created).mapError Fault.timeOutOfRange
  let r ← d.record
  .ok ((Line.of r (report.map Report.text)).textAt time)

end Draft

end PeerCheck.Log
