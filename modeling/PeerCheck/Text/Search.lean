/-!
# Search

The first occurrence of one text in another, and what stands before and after it.
-/

namespace PeerCheck.Text

variable {α : Type} [BEq α]

def dropPrefix? : (p s : List α) → Option (List α)
  | [], s => some s
  | _ :: _, [] => none
  | a :: p, b :: s => if a == b then dropPrefix? p s else none

/-- Splits at the first occurrence of `needle`: what precedes it and what follows it. -/
def cutAt? (needle : List α) : List α → Option (List α × List α)
  | [] => if needle.isEmpty then some ([], []) else none
  | a :: s =>
    match dropPrefix? needle (a :: s) with
    | some rest => some ([], rest)
    | none => (cutAt? needle s).map fun (before, after) => (a :: before, after)

def occursIn (needle hay : List α) : Bool := (cutAt? needle hay).isSome

def endsWith (s tail : List α) : Bool := tail.isSuffixOf s

def joinWith (sep : List α) : List (List α) → List α
  | [] => []
  | [p] => p
  | p :: ps => p ++ sep ++ joinWith sep ps

end PeerCheck.Text
