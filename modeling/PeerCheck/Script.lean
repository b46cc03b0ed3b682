/-!
# Scripts

The answers an outside party gives, one after another; the last is given again and again.
-/

namespace PeerCheck

structure Script (α : Type) where
  current : α
  later : List α := []
  deriving Repr

namespace Script

variable {α : Type}

/-- A script of the given answers, or of one answer where none is given. -/
def ofList (default : α) : List α → Script α
  | [] => ⟨default, []⟩
  | a :: as => ⟨a, as⟩

def advance (s : Script α) : Script α :=
  match s.later with
  | [] => s
  | a :: as => ⟨a, as⟩

end Script

end PeerCheck
