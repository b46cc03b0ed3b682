import PeerCheck.Json.Value
import PeerCheck.Number.Decimal
import PeerCheck.Text.Quoted
import PeerCheck.Text.Search

/-!
# Values in messages

How diagnostics show a value: texts quoted when they stand inside another value, lists in
brackets, objects in braces, and the null and truth values by their capitalised names.
-/

namespace PeerCheck.Json

open PeerCheck.Text PeerCheck.Number

/-- Parts between an opening and a closing character, separated by commas. -/
def bracketed (opening closing : Char) (parts : List (List Char)) : List Char :=
  opening :: (joinWith [',', ' '] parts ++ [closing])

namespace Value

mutual

/-- The form a value has inside another one. -/
def shown : Value → List Char
  | null => "None".toList
  | bool b => (if b then "True" else "False").toList
  | int n => decimalInt n
  | float x => x.text
  | str s => quoted s.toList
  | broken b => b.quoted
  | arr items => bracketed '[' ']' (shownItems items)
  | obj fields => bracketed '\x7b' '\x7d' (shownFields fields)

def shownItems : List Value → List (List Char)
  | [] => []
  | v :: vs => shown v :: shownItems vs

def shownFields : List (String × Value) → List (List Char)
  | [] => []
  | (name, v) :: fs => (quoted name.toList ++ ':' :: ' ' :: shown v) :: shownFields fs

end

/-- The form a value has by itself: a text stands as it is, but for its surrogates. -/
def plain : Value → String
  | str s => s
  | broken b => b.shown
  | v => String.ofList v.shown

/-- The form a value has by itself, as a text in full. -/
def spelling : Value → Spelling
  | broken b => .broken b
  | v => .sound v.plain

def typeName : Value → String
  | null => "NoneType"
  | bool _ => "bool"
  | int _ => "int"
  | float _ => "float"
  | str _ | broken _ => "str"
  | arr _ => "list"
  | obj _ => "dict"

end Value

end PeerCheck.Json
