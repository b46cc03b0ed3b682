import PeerCheck.Text.Search

/-!
# The common name in a written subject

The common name is what follows the first `CN=` of a subject in written form, up to the next comma
or the end. An escaped comma ends it as well.
-/

namespace PeerCheck.Cert

open PeerCheck.Text

def commonNameKey : List Char := ['C', 'N', '=']

def commonNameOf? (subject : List Char) : Option (List Char) :=
  (cutAt? commonNameKey subject).map fun (_, after) => after.takeWhile (· != ',')

/-- The common name of a subject in written form. -/
def commonName? (subject : String) : Option String :=
  (commonNameOf? subject.toList).map String.ofList

end PeerCheck.Cert
