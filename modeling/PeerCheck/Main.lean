import PeerCheck.Cli.Run
import Std.Time.DateTime.Timestamp

/-!
# The program

The host checker as a program. What a run can see is read beforehand: the files that the command
line and the configuration name, the variables and the clock; what it changed is written back
afterwards. There is no network here, so that only certificates in files can be checked.
-/

namespace PeerCheck.Cli

open PeerCheck.Config PeerCheck.Log PeerCheck.Number PeerCheck.Text

/-- What lies at a path outside; nothing is looked for at a broken one. -/
def entryAt : Spelling → IO (Option Entry)
  | .sound path => do
    try
      return some (.file (← IO.FS.readBinFile path).toList)
    catch
      | .inappropriateType .. => return some .folder
      | _ => return none
  | .broken _ => return none

def takeIn (paths : List Spelling) (files : Files) : IO Files :=
  paths.foldlM (fun files path => do
    match ← entryAt path with
    | some e => return files.install path e
    | none => return files) files

def logPaths (folder : Spelling) : List Spelling :=
  let path := Path.below folder fileName
  folder :: path :: (List.range backupCount).map fun i =>
    path.append ("." ++ String.ofList (decimal (i + 1)))

def given (paths : List (Option String)) : List Spelling := (paths.filterMap given?).map .sound

def pathsIn (s : Settings) : List Spelling :=
  let paths := [s.keystorePath, s.truststorePath].filter (·.isSet) |>.map (·.spelling)
  if s.logPath.isSet then logPaths s.logPath.spelling ++ paths else paths

def pathOf (loc : Location) : String :=
  let text := String.intercalate "/" (loc.map fun name => String.ofList (Utf8.decodeLenient name))
  if loc.head? = some (.of "/") then (text.drop 1).toString else text

/-- Writes back what differs. -/
def writeBack (before after : Files) : IO Unit := do
  for (loc, _) in before.entries do
    if (after.entry? loc).isNone then IO.FS.removeFile (pathOf loc)
  for (loc, e) in after.entries do
    if before.entry? loc != some e then
      match e with
      | .folder | .sealed => IO.FS.createDirAll (pathOf loc)
      | .file bytes => IO.FS.writeBinFile (pathOf loc) ⟨bytes.toArray⟩

def readEnvironment : IO Environment := do
  let bindings ← overrides.filterMapM fun o => do
    return (← IO.getEnv o.name).map fun text => (o.name, .sound text)
  return { bindings := bindings }

def readClock : IO Binary64 := do
  let nanos := (← Std.Time.Timestamp.now).toNanosecondsSinceUnixEpoch.val
  return .ofRatio (nanos < 0) nanos.natAbs 1000000000

/-- Every attempt to connect fails. -/
def noNetwork : Network where
  connects := { current := some (.outside .os "[Errno 101] Network is unreachable") }

def readWorld (a : Arguments) : IO World := do
  let environment ← readEnvironment
  let named := given [a.config, a.certFile] ++ ((given? a.logPath).map logPaths).getD []
  let files ← takeIn named {}
  let files ← match given? a.config with
    | none => pure files
    | some path =>
      match ((load files environment path true).run []).1 with
      | .ok s => takeIn (pathsIn s) files
      | .error _ => pure files
  return {
    environment := environment
    clock := ← readClock
    out := { files := files }
    network := noNetwork
    wraps := { current := .error (.outside .os "[Errno 107] Transport endpoint is not connected") } }

/-- Runs the checker and writes back what it did; the exit code. -/
def perform (a : Arguments) : IO UInt32 := do
  let before ← readWorld a
  let (outcome, after) := (run a).run before
  writeBack before.out.files after.out.files
  IO.print after.out.stdout
  IO.eprint after.out.stderr
  match outcome with
  | .ok code => return .ofNat code
  | .error e =>
    IO.eprintln e.message
    return .ofNat exitFailed

end PeerCheck.Cli

open PeerCheck.Cli in
def main (argv : List String) : IO UInt32 := do
  match Arguments.read argv with
  | .error refusal =>
    IO.eprint refusal.line
    return .ofNat exitFault
  | .ok a => perform a
