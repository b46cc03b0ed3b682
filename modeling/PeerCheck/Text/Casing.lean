import PeerCheck.Text.Casing.Table

/-!
# Lower case

Full Unicode lower-casing. Every character but three maps on its own: `İ` becomes two characters,
and `Σ` becomes the final form `ς` where it ends a word, that is when a cased letter precedes it
and none follows, marks such as the full stop or the apostrophe being looked through.
-/

namespace PeerCheck.Text

/-- The lower case of a character that maps on its own to one character. -/
def lowerChar (c : Char) : Char :=
  if c.toNat < 0x80 then c.toLower
  else match lowerRuns.find? (·.covers c.toNat) with
    | some run => Char.ofNat (c.toNat + run.offset).toNat
    | none => c

def isCased (c : Char) : Bool := CodeRange.anyCovers casedRanges c

def isCaseIgnorable (c : Char) : Bool := CodeRange.anyCovers ignorableRanges c

/-- Whether the first character that is not looked through is a cased letter. -/
def startsCased (cs : List Char) : Bool :=
  match cs.dropWhile isCaseIgnorable with
  | [] => false
  | c :: _ => isCased c

/-- Lowers `cs`, which `before` precedes, nearest character first. -/
def lowerAfter (before : List Char) : List Char → List Char
  | [] => []
  | c :: cs =>
    let image :=
      if c = 'Σ' then [if startsCased before && !startsCased cs then 'ς' else 'σ']
      else if c = 'İ' then ['i', '\u0307']
      else [lowerChar c]
    image ++ lowerAfter (c :: before) cs

def lower (cs : List Char) : List Char := lowerAfter [] cs

end PeerCheck.Text
