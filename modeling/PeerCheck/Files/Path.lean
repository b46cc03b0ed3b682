import PeerCheck.Text.Search
import PeerCheck.Text.Spelling

/-!
# Paths

Paths are texts whose components are separated by slashes. Their tidy form drops empty components
and single dots, keeps double dots, and is a dot where nothing is left.
-/

namespace PeerCheck.Path

open PeerCheck.Text

def slash : Point := .char '/'

def splitParts : List Point → List (List Point)
  | [] => [[]]
  | c :: cs =>
    if c = slash then [] :: splitParts cs
    else match splitParts cs with
      | p :: ps => (c :: p) :: ps
      | [] => [[c]]

def isAbsolute (path : Spelling) : Bool := path.points.head? = some slash

/-- The slashes at the front of a tidy path: exactly two are kept. -/
def root (path : List Point) : List Point :=
  match (path.takeWhile (· == slash)).length with
  | 0 => []
  | 2 => [slash, slash]
  | _ => [slash]

def tidy (path : Spelling) : Spelling :=
  let kept := (splitParts path.points).filter fun p => p != [] && p != [.char '.']
  let text := root path.points ++ List.intercalate [slash] kept
  if text = [] then .sound "." else .ofPoints text

def below (folder : Spelling) (name : String) : Spelling :=
  folder.append
    (if folder.points = [] ∨ folder.points.getLast? = some slash then name else "/" ++ name)

/-- What precedes the last slash, without slashes at its end unless it has nothing else, and what
follows it. -/
def splitLast (path : List Point) : List Point × List Point :=
  let tail := (path.reverse.takeWhile (· != slash)).reverse
  let head := path.take (path.length - tail.length)
  let bare := (head.reverse.dropWhile (· == slash)).reverse
  (if bare.isEmpty then head else bare, tail)

/-- The folder a path lies in and its own name; a slash at the end is passed over. -/
def folderAndName (path : Spelling) : Spelling × Spelling :=
  let (head, tail) := splitLast path.points
  let (head, tail) := if tail.isEmpty then splitLast head else (head, tail)
  (.ofPoints head, .ofPoints tail)

def withoutEndSlash (path : Spelling) : Spelling :=
  .ofPoints (path.points.reverse.dropWhile (· == slash)).reverse

def hasNull (path : Spelling) : Bool := path.points.contains (.char '\x00')

/-- The components as the file system has them. -/
def names (path : Spelling) : List (List UInt8) :=
  (splitParts path.points).map (·.flatMap Point.bytes)

def maxBytes : Nat := 4095

def isTooLong (path : Spelling) : Bool := maxBytes < (path.points.flatMap Point.bytes).length

end PeerCheck.Path
