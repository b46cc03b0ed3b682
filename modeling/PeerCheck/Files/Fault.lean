import PeerCheck.Text.Spelling

/-!
# File faults

Why a call on a path fails, with the path as it was given to the call.
-/

namespace PeerCheck

open PeerCheck.Text

inductive FileCause
  | notFound
  | denied
  | alreadyThere
  | notFolder
  | isFolder
  | nameTooLong
  deriving DecidableEq, Repr

namespace FileCause

def number : FileCause → Nat
  | notFound => 2
  | denied => 13
  | alreadyThere => 17
  | notFolder => 20
  | isFolder => 21
  | nameTooLong => 36

def reason : FileCause → String
  | notFound => "No such file or directory"
  | denied => "Permission denied"
  | alreadyThere => "File exists"
  | notFolder => "Not a directory"
  | isFolder => "Is a directory"
  | nameTooLong => "File name too long"

/-- The causes that say that there is nothing. -/
def isAbsence : FileCause → Bool
  | notFound | notFolder => true
  | _ => false

end FileCause

structure FileFault where
  cause : FileCause
  path : Spelling
  deriving DecidableEq, Repr

namespace FileFault

def message (f : FileFault) : String :=
  let path := String.ofList f.path.quoted
  s!"[Errno {f.cause.number}] {f.cause.reason}: {path}"

end FileFault

end PeerCheck
