import PeerCheck.Log.Record
import PeerCheck.Text.Search

/-!
# Wildcard names

A common name that begins with `*.` stands for every host below the rest of it, unless it is short
and its middle label is a fragment under which registries hand out names (`*.co.uk`). Such a name
is vetoed: it counts as a plain name. The veto looks at names of seven to nine characters only, and
takes what lies between the wildcard and the last two characters.
-/

namespace PeerCheck.Host

open PeerCheck.Text PeerCheck.Log

def vetoedFragments : List String :=
  ["ac.", "co.", "com.", "ed.", "edu.", "go.", "gouv.", "gov.", "info.", "lg.", "ne.", "net.",
    "or.", "org."]

def isWildcard (cn : List Char) : Bool := (dropPrefix? ['*', '.'] cn).isSome

/-- The middle of a short name; of other names nothing. -/
def fragment (cn : List Char) : List Char :=
  if 7 ≤ cn.length ∧ cn.length ≤ 9 then (cn.take (cn.length - 2)).drop 2 else []

def isVetoed (cn : List Char) : Bool := vetoedFragments.any (·.toList == fragment cn)

/-- Whether a name, taken as it is, stands for the hosts below it. -/
def wildcardAllowed (cn : List Char) : Bool := isWildcard cn && !isVetoed cn

def vetoRecord (cn : List Char) : Record :=
  .of "hostname" .debug
    s!"Wildcard vetoed for CN={String.ofList cn} (fragment={String.ofList (fragment cn)})"

/-- The records of one look at a name: a veto is told of. -/
def wildcardRecords (cn : List Char) : List Record :=
  if isWildcard cn && isVetoed cn then [vetoRecord cn] else []

end PeerCheck.Host
