import PeerCheck.Config.Environment
import PeerCheck.Files.Tree
import PeerCheck.Json.Reader
import PeerCheck.Text.Utf8

/-!
# Loading a configuration file

A file is decoded, its line ends made uniform, read as JSON and validated; then the environment may
override fields, and the settings are made and recorded.
-/

namespace PeerCheck.Config

open PeerCheck.Json PeerCheck.Log PeerCheck.Text

def defaultFileName : String := ".tlsguardrc"

/-- Every line end becomes a line feed. -/
def uniformLines : List Char → List Char
  | '\r' :: '\n' :: cs => '\n' :: uniformLines cs
  | '\r' :: cs => '\n' :: uniformLines cs
  | c :: cs => c :: uniformLines cs
  | [] => []

/-- The value that the bytes of the file at a path hold, or what is wrong with them. -/
def valueOfBytes (room : Nat) (path : Spelling) (bytes : List UInt8) : Except Fault Value :=
  match Utf8.decode bytes with
  | .error run => .error (.config (.unreadableFile path.shown run.message))
  | .ok cs =>
    let text := uniformLines cs
    (parseWithin room text).mapError fun
      | .tooDeep nest => .tooDeep nest
      | e => .config (.unreadableFile path.shown (e.message text))

/-- The value in a file, given its path in tidy form. -/
def readFile (files : Files) (room : Nat) (path : Spelling) : Except Fault Value := do
  if ← files.isFile path then
    let bytes ← (files.read path).mapError fun e =>
      .config (.unreadableFile path.shown e.message)
    valueOfBytes room path bytes
  else .error (.config (.missingFile path.shown))

/-- What a message shows of a path: a hyphen where none is configured. -/
def pathOr (absent : String) (v : Value) : String := if v.isSet then v.plain else absent

def loadedRecord (path : Spelling) (s : Settings) : Record :=
  let keystore := pathOr "-" s.keystorePath
  let truststore := pathOr "-" s.truststorePath
  let timeout := String.ofList s.connectTimeout.text
  .of "config" .info
    (s!"{EventCode.configLoaded.name}: file={path.shown}, algorithm={s.algorithm.name}, " ++
      s!"keystore={keystore}, truststore={truststore}, connect_timeout={timeout}")

/-- The settings of a file, overridden by the environment if that is asked for. -/
def load (files : Files) (env : Environment) (path : Spelling) (useEnvironment : Bool) :
    Recorded Settings := do
  let path := Path.tidy path
  let v ← ofExcept (readFile files env.room path)
  let fields ← ofExcept ((validate v).mapError fun e => Fault.config (.badSchema e))
  let fields ← if useEnvironment then applyEnvironment env fields else pure fields
  let settings ← ofExcept (Settings.ofFields fields)
  Recorded.emit (loadedRecord path settings)
  pure settings

end PeerCheck.Config
