import PeerCheck.Log.Journal

/-!
# Setting logging up

The set-up makes the folder and the file, and replaces all handlers by one for the file and, if it
is asked for, one for the console. A second set-up before logging is shut down does nothing, and
one that fails leaves the journal as it was.
-/

namespace PeerCheck.Log

open PeerCheck.Number PeerCheck.Text

def fileName : String := "tlsguard.log"

def maxFileMebibytes : Nat := 5

def backupCount : Nat := 5

structure Options where
  console : Bool := false
  maxBytes : Int := maxFileMebibytes * 1024 * 1024
  backups : Int := backupCount
  deriving DecidableEq, Repr

abbrev Outcome := Except Fault Unit × Journal × Outlets

def openFolder (path : Spelling) (fs : Files) : Except Fault Unit × Files :=
  if fs.isFolder path then (.ok (), fs)
  else match fs.makeFolders path with
    | (.error (.file f), fs) => (.error (.logSetup (.noFolder path.shown f.message)), fs)
    | r => r

def openFile (path : Spelling) (fs : Files) : Except Fault (Location × Files) :=
  (fs.openToAppend path).mapError fun
    | .file f => .logSetup (.noFile path.shown f.message)
    | e => e

def openingRecord (path : Spelling) (console : Bool) : Record :=
  let flag := if console then "True" else "False"
  ⟨rootName, .info, s!"Logging initialized. console_enabled={flag}, log_path={path.shown}"⟩

namespace Journal

/-- The journal after a set-up that succeeded. -/
def attach (s : Sink) (console : Bool) : Journal where
  initialized := true
  file := some s
  console := console
  handlers := .file s :: if console then [.console] else []
  level := .info

/-- Sets logging up in a folder. -/
def start (j : Journal) (clock : Binary64) (folder : Spelling) (options : Options) (o : Outlets) :
    Outcome :=
  if j.initialized then (.ok (), j, o)
  else match openFolder folder o.files with
    | (.error e, fs) => (.error e, j, { o with files := fs })
    | (.ok (), fs) =>
      let path := Path.below folder fileName
      match openFile path fs with
      | .error e => (.error e, j, { o with files := fs })
      | .ok (loc, fs) =>
        let next := attach ⟨loc, options.maxBytes, options.backups⟩ options.console
        let r := openingRecord path options.console
        (.ok (), next, next.deliver clock r { o with files := fs })

/-- Takes off what the set-up attached; other handlers and the level stay. -/
def shutDown (j : Journal) : Journal :=
  let handlers := match j.file with
    | some s => j.handlers.erase (.file s)
    | none => j.handlers
  { j with
    initialized := false
    file := none
    console := false
    handlers := if j.console then handlers.erase .console else handlers }

def addForeign (j : Journal) : Journal := { j with handlers := j.handlers ++ [.foreign] }

end Journal

end PeerCheck.Log
