import PeerCheck.Text.Spelling

/-!
# Spellings and their points

A spelling is told by its points: taken apart and put together again it is the same
(`ofPoints_points`). It ends in some characters just where its characters after the last surrogate
do (`suffix_points_iff`).
-/

namespace PeerCheck.Text.Spelling

theorem takeChars_chars (cs : List Char) : takeChars (cs.map .char) = (cs, []) := by
  induction cs with
  | nil => rfl
  | cons c cs ih => rw [List.map_cons, takeChars, ih]

theorem takeChars_lone (cs : List Char) (s : Surrogate) (ps : List Point) :
    takeChars (cs.map .char ++ .lone s :: ps) = (cs, .lone s :: ps) := by
  induction cs with
  | nil => rfl
  | cons c cs ih => rw [List.map_cons, List.cons_append, takeChars, ih]

theorem ofPoints_chars (cs : List Char) : ofPoints (cs.map .char) = .sound (String.ofList cs) := by
  rw [ofPoints, takeChars_chars]

theorem ofPoints_points (t : Spelling) : ofPoints t.points = t := by
  cases t with
  | sound s => rw [points, ofPoints_chars, String.ofList_toList]
  | broken b =>
    rw [points, Broken.points, ofPoints, takeChars_lone]
    dsimp only
    rw [String.ofList_toList]

theorem prefix_takeWhile_iff (cs : List Char) (ps : List Point) :
    cs.map Point.char <+: ps ↔ cs <+: (ps.takeWhile (!·.isLone)).filterMap Point.char? := by
  induction cs generalizing ps with
  | nil => simp
  | cons c cs ih =>
    cases ps with
    | nil => simp
    | cons p ps =>
      cases p with
      | char d => simp [List.cons_prefix_cons, Point.isLone, Point.char?, ih]
      | lone s => simp [List.cons_prefix_cons, Point.isLone]

theorem suffix_points_iff (t : Spelling) (cs : List Char) :
    cs.map Point.char <:+ t.points ↔ cs <:+ t.ending := by
  rw [← List.reverse_prefix, ← List.reverse_prefix, ending, List.reverse_reverse, ← List.map_reverse,
    prefix_takeWhile_iff]

end PeerCheck.Text.Spelling
