import PeerCheck.Files.Tree
import PeerCheck.Log.Draft
import PeerCheck.Text.Utf8

/-!
# The journal

Records go to the handlers that are attached, if their level is high enough. A file handler appends
a line to its file and moves full files aside; a console handler writes the same line to the
standard output; a foreign handler writes the bare message there. Where nothing is attached,
warnings and worse go to the standard error output.
-/

namespace PeerCheck.Log

open PeerCheck.Number PeerCheck.Text

/-- The file of a handler, the size at which it is moved aside, and how many old ones are kept. -/
structure Sink where
  location : Location
  maxBytes : Int
  backups : Int
  deriving DecidableEq, Repr

inductive Handler
  | file (s : Sink)
  | console
  | foreign
  deriving DecidableEq, Repr

/-- Where records are written to. -/
structure Outlets where
  files : Files := {}
  stdout : String := ""
  stderr : String := ""
  deriving Repr

/-- The state of logging: whether it was set up, the handlers that the set-up attached, all that
are attached, and the least level that is let through. -/
structure Journal where
  initialized : Bool := false
  file : Option Sink := none
  console : Bool := false
  handlers : List Handler := []
  level : Level := .warning
  deriving DecidableEq, Repr

namespace Sink

def backup (s : Sink) (i : Nat) : Location :=
  s.location.dropLast ++ [s.location.getLastD [] ++ .of ("." ++ String.ofList (decimal i))]

/-- Moves the old files one place on, from the `i`-th down. -/
def shift (s : Sink) : Nat → Files → Files
  | 0, fs => fs
  | i + 1, fs => s.shift i (fs.move (s.backup (i + 1)) (s.backup (i + 2)))

/-- Moves the full file aside and begins a new one. Where no old file is kept, nothing moves. -/
def roll (s : Sink) (fs : Files) : Files :=
  if s.backups ≤ 0 then fs
  else ((s.shift (s.backups.toNat - 1) fs).move s.location (s.backup 1)).put s.location (.file [])

def isFull (s : Sink) (fs : Files) (line : List UInt8) : Bool :=
  0 < s.maxBytes && s.maxBytes ≤ ((fs.bytesAt s.location).length + line.length : Nat)

/-- Appends a line, given with its end. -/
def append (s : Sink) (fs : Files) (line : List UInt8) : Files :=
  (if s.isFull fs line then s.roll fs else fs).append s.location line

end Sink

namespace Handler

/-- Writes a record made at a time. A record whose time has no written form is lost. -/
def write (clock : Binary64) (r : Record) (o : Outlets) : Handler → Outlets
  | file s =>
    match recordLine clock r none with
    | .ok line => { o with files := s.append o.files (Utf8.encode (line ++ "\n").toList) }
    | .error _ => o
  | console =>
    match recordLine clock r none with
    | .ok line => { o with stdout := o.stdout ++ line ++ "\n" }
    | .error _ => o
  | foreign => { o with stdout := o.stdout ++ r.message ++ "\n" }

end Handler

namespace Journal

def lets (j : Journal) (level : Level) : Bool := j.level.rank ≤ level.rank

/-- Where records go that no handler takes. -/
def writeBare (r : Record) (o : Outlets) : Outlets :=
  if Level.warning.rank ≤ r.level.rank then { o with stderr := o.stderr ++ r.message ++ "\n" }
  else o

def deliver (j : Journal) (clock : Binary64) (r : Record) (o : Outlets) : Outlets :=
  if !j.lets r.level then o
  else if j.handlers.isEmpty then writeBare r o
  else j.handlers.foldl (fun o h => h.write clock r o) o

/-- Delivers the record of a draft. A draft whose template is at fault is lost. -/
def deliverDraft (j : Journal) (clock : Binary64) (d : Draft) (o : Outlets) : Outlets :=
  match d.record with
  | .ok r => j.deliver clock r o
  | .error _ => o

end Journal

end PeerCheck.Log
