import PeerCheck.Number.Binary64
import PeerCheck.Text.Spelling

/-!
# JSON values

Whole numbers and numbers with a fraction or an exponent are kept apart, and so are sound texts and
broken ones. The fields of an object keep the order in which their names first appeared.
-/

namespace PeerCheck.Json

open PeerCheck.Number PeerCheck.Text

inductive Value
  | null
  | bool (b : Bool)
  | int (n : Int)
  | float (x : Binary64)
  | str (s : String)
  | broken (b : Broken)
  | arr (items : List Value)
  | obj (fields : List (String × Value))
  deriving Inhabited, Repr

abbrev Fields := List (String × Value)

namespace Fields

def get? (fields : Fields) (name : String) : Option Value := fields.lookup name

def getD (fields : Fields) (name : String) (default : Value) : Value :=
  (fields.get? name).getD default

/-- Sets a field: in its place if the name is there, at the end otherwise. -/
def put : Fields → String → Value → Fields
  | [], name, v => [(name, v)]
  | (n, w) :: fs, name, v => if n = name then (n, v) :: fs else (n, w) :: put fs name v

end Fields

namespace Value

/-- Whether a value counts as set: not null, not false, not zero and not empty. -/
def isSet : Value → Bool
  | null => false
  | bool b => b
  | int n => n != 0
  | float x => !x.isZero
  | str s => s != ""
  | broken _ => true
  | arr items => !items.isEmpty
  | obj fields => !fields.isEmpty

def ofText : Spelling → Value
  | .sound s => str s
  | .broken b => broken b

def isNull : Value → Bool
  | null => true
  | _ => false

/-- A number proper; truth values do not count. -/
def isNumber : Value → Bool
  | int _ | float _ => true
  | _ => false

end Value

end PeerCheck.Json
