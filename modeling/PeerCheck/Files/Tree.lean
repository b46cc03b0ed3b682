import PeerCheck.Fault
import PeerCheck.Files.Path

/-!
# Files

The files around the working folder: what lies at each location, a location being the list of names
that lead there from the working folder, two dots for each folder up, or from the root. Finding a
path walks through the folders it names, so that each has to be there, to be a folder, and to let
itself be searched.
-/

namespace PeerCheck

open PeerCheck.Text

abbrev EntryName := List UInt8

def EntryName.of (s : String) : EntryName := s.toList.flatMap String.utf8EncodeChar

abbrev Location := List EntryName

/-- What lies at a location. A sealed folder may not be searched. -/
inductive Entry
  | file (bytes : List UInt8)
  | folder
  | sealed
  deriving DecidableEq, Repr

structure Files where
  entries : List (Location × Entry) := []
  deriving DecidableEq, Repr

namespace Files

def dot : EntryName := .of "."

def dots : EntryName := .of ".."

def maxNameBytes : Nat := 255

/-- The location at which absolute paths begin. -/
def rootLocation : Location := [.of "/"]

/-- Whether a location is the working folder or a folder above it. -/
def isAbove (loc : Location) : Bool := loc = rootLocation || loc.all (· == dots)

/-- What lies at a location; the working folder and those above it are always there. -/
def entry? (fs : Files) (loc : Location) : Option Entry :=
  if isAbove loc then some .folder else fs.entries.lookup loc

def parent (loc : Location) : Location :=
  if loc = rootLocation then loc
  else if isAbove loc then loc ++ [dots]
  else loc.dropLast

/-- Puts an entry at a location, in the place of what is there. -/
def put (fs : Files) (loc : Location) (e : Entry) : Files :=
  ⟨fs.entries.filter (·.1 != loc) ++ [(loc, e)]⟩

def remove (fs : Files) (loc : Location) : Files := ⟨fs.entries.filter (·.1 != loc)⟩

/-- Where a component of a path leads from a location. An empty one only asks for a folder. -/
def enter (fs : Files) (here : Location) (name : EntryName) : Except FileCause Location :=
  match fs.entry? here with
  | none => .error .notFound
  | some (.file _) => .error .notFolder
  | some .sealed => if name = [] then .ok here else .error .denied
  | some .folder =>
    if name = [] ∨ name = dot then .ok here
    else if name = dots then .ok (parent here)
    else if maxNameBytes < name.length then .error .nameTooLong
    else .ok (here ++ [name])

/-- Walks from a location through the components of a path. -/
def walk (fs : Files) (here : Location) (names : List EntryName) : Except FileCause Location :=
  names.foldlM fs.enter here

def start (path : Spelling) : Location := if Path.isAbsolute path then rootLocation else []

def locate (fs : Files) (path : Spelling) : Except FileCause Location :=
  if path = .sound "" then .error .notFound
  else if Path.isTooLong path then .error .nameTooLong
  else fs.walk (start path) (Path.names path)

/-- Why a path cannot be handed to the file system at all. -/
def unfit? (path : Spelling) : Option Fault :=
  match EncodeFault.inName? 0 path.points with
  | some f => some (.unencodable f)
  | none => if Path.hasNull path then some .nullByte else none

/-- The location of a path that a call on files is given. -/
def locateFor (fs : Files) (path : Spelling) : Except Fault Location :=
  match unfit? path with
  | some e => .error e
  | none => (fs.locate path).mapError fun cause => .file ⟨cause, path⟩

def find? (fs : Files) (path : Spelling) : Option Entry :=
  match fs.locateFor path with
  | .ok loc => fs.entry? loc
  | .error _ => none

/-- Whether there is a file at a path. Where a folder on the way may not be searched, or the path is
too long, that is not known. -/
def isFile (fs : Files) (path : Spelling) : Except Fault Bool :=
  match fs.locateFor path with
  | .ok loc => .ok (match fs.entry? loc with
    | some (.file _) => true
    | _ => false)
  | .error (.file f) => if f.cause.isAbsence then .ok false else .error (.file f)
  | .error _ => .ok false

def isFolder (fs : Files) (path : Spelling) : Bool :=
  match fs.find? path with
  | some .folder | some .sealed => true
  | _ => false

def isThere (fs : Files) (path : Spelling) : Bool := (fs.find? path).isSome

def read (fs : Files) (path : Spelling) : Except Fault (List UInt8) := do
  let loc ← fs.locateFor path
  match fs.entry? loc with
  | some (.file bytes) => .ok bytes
  | some _ => .error (.file ⟨.isFolder, path⟩)
  | none => .error (.file ⟨.notFound, path⟩)

/-- Makes sure that a file can be appended to, and creates it if it is not there. -/
def openToAppend (fs : Files) (path : Spelling) : Except Fault (Location × Files) := do
  let loc ← fs.locateFor path
  match fs.entry? loc with
  | some (.file _) => .ok (loc, fs)
  | some _ => .error (.file ⟨.isFolder, path⟩)
  | none => .ok (loc, fs.put loc (.file []))

def bytesAt (fs : Files) (loc : Location) : List UInt8 :=
  match fs.entry? loc with
  | some (.file bytes) => bytes
  | _ => []

def append (fs : Files) (loc : Location) (bytes : List UInt8) : Files :=
  fs.put loc (.file (fs.bytesAt loc ++ bytes))

/-- Moves an entry, in the place of what is there; where there is nothing, nothing moves. -/
def move (fs : Files) (source target : Location) : Files :=
  match fs.entry? source with
  | some e => (fs.remove source).put target e
  | none => fs

/-- Where a folder is to be made: a slash at the end does not ask for a folder. -/
def locateNew (fs : Files) (path : Spelling) : Except FileCause Location :=
  if Path.isTooLong path then .error .nameTooLong
  else
    let bare := Path.withoutEndSlash path
    fs.locate (if bare = .sound "" then path else bare)

def makeFolder (fs : Files) (path : Spelling) : Except Fault Files :=
  match unfit? path with
  | some e => .error e
  | none =>
    match fs.locateNew path with
    | .error cause => .error (.file ⟨cause, path⟩)
    | .ok loc =>
      match fs.entry? loc with
      | some _ => .error (.file ⟨.alreadyThere, path⟩)
      | none => .ok (fs.put loc .folder)

def makeFolderUnlessThere (fs : Files) (path : Spelling) : Except Fault Unit × Files :=
  match fs.makeFolder path with
  | .ok fs => (.ok (), fs)
  | .error e => if e.isOs && fs.isFolder path then (.ok (), fs) else (.error e, fs)

/-- Makes the folder of a path whose folder above is there; a dot at the end names no folder. -/
def makeLast (fs : Files) (path name : Spelling) : Except Fault Unit × Files :=
  if name = .sound "." then (.ok (), fs) else fs.makeFolderUnlessThere path

/-- The fault of what was to be made and is there. -/
def saysThere : Fault → Bool
  | .file ⟨.alreadyThere, _⟩ => true
  | _ => false

/-- Makes a folder and those it lies in. What was made stays when a later one fails. The fuel is a
bound on the number of folders. -/
def makeFoldersUpTo : Nat → Files → Spelling → Except Fault Unit × Files
  | 0, fs, path => fs.makeFolderUnlessThere path
  | fuel + 1, fs, path =>
    let (head, tail) := Path.folderAndName path
    if head = .sound "" ∨ tail = .sound "" ∨ fs.isThere head then fs.makeFolderUnlessThere path
    else match makeFoldersUpTo fuel fs head with
      | (.error e, fs) => if saysThere e then fs.makeLast path tail else (.error e, fs)
      | (.ok (), fs) => fs.makeLast path tail

def makeFolders (fs : Files) (path : Spelling) : Except Fault Unit × Files :=
  makeFoldersUpTo path.points.length fs path

/-- Puts a file or a folder at a path and makes the folders on the way. -/
def install (fs : Files) (path : Spelling) (e : Entry) : Files :=
  let (_, fs) := fs.makeFolders (Path.folderAndName path).1
  match fs.locate path with
  | .ok loc => fs.put loc e
  | .error _ => fs

end Files

end PeerCheck
