import PeerCheck.Fault
import PeerCheck.Json.Writer
import PeerCheck.Log.Record
import PeerCheck.Log.Timestamp

/-!
# Log lines

A record is written as one line of JSON: the time, the logger, the level, the message, the version
of this layout, and the fault that the record reports, if there is one.
-/

namespace PeerCheck.Log

open PeerCheck.Json PeerCheck.Number

/-- A fault as a record reports it: its class and its message. -/
structure Report where
  className : String
  message : String
  deriving DecidableEq, Repr

namespace Report

def text (r : Report) : String :=
  if r.message = "" then r.className else s!"{r.className}: {r.message}"

end Report

def schemaVersion : Int := 1

/-- What is written on a line beside the time: the names of a logger and of a level, a message, and
the fault that is reported, if there is one. -/
structure Line where
  logger : String
  level : String
  message : String
  exception : Option String := none

namespace Line

/-- What is written for a record. -/
def of (r : Record) (exception : Option String) : Line :=
  ⟨r.logger, r.level.name, r.message, exception⟩

def fields (time : String) (l : Line) : Fields :=
  [("timestamp", .str time), ("subsystem", .str l.logger), ("event_code", .str l.level),
    ("message", .str l.message), ("schema_version", .int schemaVersion)] ++
    (l.exception.map fun e => ("exception", Value.str e)).toList

def textAt (time : String) (l : Line) : String := (Value.obj (l.fields time)).line

def text (created : Binary64) (l : Line) : Except TimeFault String :=
  (timestamp created).map fun time => l.textAt time

end Line

def recordLine (created : Binary64) (r : Record) (exception : Option String) :
    Except TimeFault String :=
  (Line.of r exception).text created

end PeerCheck.Log
