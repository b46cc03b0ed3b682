import PeerCheck.Proofs.Host.Match
import PeerCheck.Proofs.Text.Blank

/-!
# Hosts below a wildcard

An allowed wildcard is meant for every host that ends in what follows its star. Host and name are
lowered each as a whole, so a host is missed where the common end begins with a capital sigma that
is a final one in the host, after the letters before the dot, but none after the star
(`agrees_below_iff`).
-/

namespace PeerCheck.Host

open PeerCheck.Text

variable {cs ds : List Char}

/-- Whether the last character that is not looked through is a cased letter. -/
def endsCased (cs : List Char) : Bool := startsCased cs.reverse

theorem length_lowerImage (before before' : List Char) (c : Char) (after : List Char) :
    (lowerImage before c after).length = (lowerImage before' c after).length := by
  unfold lowerImage
  split
  · rfl
  · rfl

theorem length_lowerAfter (before before' cs : List Char) :
    (lowerAfter before cs).length = (lowerAfter before' cs).length := by
  induction cs generalizing before before' with
  | nil => rfl
  | cons c cs ih =>
    rw [lowerAfter_cons, lowerAfter_cons, List.length_append, List.length_append,
      length_lowerImage before before', ih (c :: before) (c :: before')]

/-! ## Blanks before a host are no letters -/

theorem cased_apart_from_blanks : (casedRanges.all fun run => blankRanges.all fun r =>
    run.last < r.first || r.last < run.first) = true := by
  decide +kernel

theorem isCased_of_isBlank {c : Char} (h : isBlank c = true) : isCased c = false := by
  refine anyCovers_eq_false fun run hrun => ?_
  obtain ⟨r, hr, hc⟩ := List.any_eq_true.mp h
  have ha := List.all_eq_true.mp (List.all_eq_true.mp cased_apart_from_blanks run hrun) r hr
  simp only [CodeRange.covers, Bool.and_eq_true, Bool.or_eq_true, decide_eq_true_eq] at hc ha
  omega

theorem startsCased_append (cs ds : List Char) :
    startsCased (cs ++ ds) =
      if (cs.dropWhile isCaseIgnorable).isEmpty then startsCased ds else startsCased cs := by
  unfold startsCased
  rw [List.dropWhile_append]
  cases cs.dropWhile isCaseIgnorable <;> rfl

theorem startsCased_of_blank (h : ∀ c ∈ cs, isBlank c = true) : startsCased cs = false := by
  induction cs with
  | nil => rfl
  | cons c cs ih =>
    rw [startsCased_cons, ih fun d hd => h d (List.mem_cons_of_mem c hd),
      isCased_of_isBlank (h c List.mem_cons_self), ite_self]

theorem endsCased_trimLeft (cs : List Char) : endsCased (trimLeft isBlank cs) = endsCased cs := by
  have hsplit : cs.reverse = (trimLeft isBlank cs).reverse ++ (cs.takeWhile isBlank).reverse := by
    rw [← List.reverse_append, trimLeft, List.takeWhile_append_dropWhile]
  have hblank : startsCased (cs.takeWhile isBlank).reverse = false :=
    startsCased_of_blank fun c hc => List.mem_takeWhile_imp (List.mem_reverse.mp hc)
  rw [endsCased, endsCased, hsplit, startsCased_append, hblank]
  split
  · next hempty =>
    rw [startsCased, List.isEmpty_iff.mp hempty]
  · rfl

/-! ## Both sides in compared form -/

theorem isCaseIgnorable_dot : isCaseIgnorable '.' = true := by decide

theorem startsCased_dot_cons (cs : List Char) : startsCased ('.' :: cs) = startsCased cs := by
  rw [startsCased_cons, isCaseIgnorable_dot, if_pos rfl]

theorem lowerImage_dot (before after : List Char) : lowerImage before '.' after = ['.'] := rfl

theorem lowerImage_star (before after : List Char) : lowerImage before '*' after = ['*'] := rfl

theorem startsCased_star : startsCased ['*'] = false := by decide +kernel

/-- What follows the star of a wildcard is lowered as it is by itself. -/
theorem lower_wildcard (cs : List Char) : lower ('*' :: '.' :: cs) = '*' :: '.' :: lower cs := by
  have hnone : startsCased ['.', '*'] = startsCased [] := by
    rw [startsCased_dot_cons, startsCased_star]
    rfl
  rw [lower, lowerAfter_cons, lowerImage_star, lowerAfter_cons, lowerImage_dot,
    lowerAfter_eq_of_sameLetters (.refl cs) hnone, lower]
  rfl

/-- The end of a host, after a dot, is lowered as it is after the letters before the dot. -/
theorem exists_lower_below (cs : List Char) {ds : List Char} (h : endsBlank ds = false) :
    ∃ front, lower (trim (cs ++ '.' :: ds)) =
      front ++ '.' :: lowerAfter ('.' :: (trimLeft isBlank cs).reverse) ds := by
  have hends : endsBlank ('.' :: ds) = false := by
    cases ds with
    | nil => decide
    | cons d ds => rwa [endsBlank, List.getLast?_cons_cons]
  refine ⟨lowerBetween [] (trimLeft isBlank cs) ('.' :: ds), ?_⟩
  rw [trim_append_cons (by decide) hends, lower, lowerAfter_append, List.append_nil,
    lowerAfter_cons, lowerImage_dot]
  rfl

/-- Of two ends of one length only equal ones are ends of one text. -/
theorem suffix_append_iff {α : Type} {front cs ds : List α} (h : cs.length = ds.length) :
    cs <:+ front ++ ds ↔ cs = ds := by
  constructor
  · intro hs
    exact (List.suffix_of_suffix_length_le hs (List.suffix_append front ds) (by omega)).eq_of_length h
  · rintro rfl
    exact List.suffix_append front cs

/-- An allowed wildcard agrees with every host that ends in what follows its star, in small or
capital letters, unless that end begins with a final sigma and a cased letter stands before its
dot. -/
theorem agrees_below_iff (p s t : String) (hend : endsBlank t.toList = false)
    (hcase : lower t.toList = lower s.toList)
    (hw : wildcardAllowed (normalizeName ("*." ++ s)).toList = true) :
    agrees (p ++ "." ++ t) ("*." ++ s) = true ↔
      ¬ (endsCased p.toList = true ∧ opensWithFinalSigma t.toList = true) := by
  have hhost : (p ++ "." ++ t).toList = p.toList ++ '.' :: t.toList := by
    rw [String.toList_append, String.toList_append, List.append_assoc]
    rfl
  have hname : ("*." ++ s).toList = '*' :: '.' :: s.toList := String.toList_append ..
  obtain ⟨front, hfront⟩ := exists_lower_below p.toList hend
  generalize hb : '.' :: (trimLeft isBlank p.toList).reverse = before at hfront
  have hbefore : startsCased before = endsCased p.toList := by
    rw [← hb, startsCased_dot_cons, ← endsCased_trimLeft, endsCased]
  have hlength : (lower t.toList).length = (lowerAfter before t.toList).length :=
    length_lowerAfter [] before t.toList
  have hsuffix : agrees (p ++ "." ++ t) ("*." ++ s) = true ↔
      lowerAfter before t.toList = lower t.toList := by
    rw [agrees, matchesNormalized, if_pos hw, normalizeHost, normalizeName, String.toList_ofList,
      String.toList_ofList, hhost, hname, hfront, lower_wildcard, endsWith, ← hcase,
      List.isSuffixOf_iff_suffix, List.drop_succ_cons, List.drop_zero,
      suffix_append_iff (by simpa using hlength), List.cons_inj_right]
    exact eq_comm
  rw [hsuffix, ← hbefore]
  cases hc : startsCased before with
  | true =>
    rw [lower, lowerAfter_eq_iff hc rfl]
    simp
  | false =>
    refine iff_of_true (lowerAfter_eq_of_sameLetters (.refl _) hc) ?_
    simp

/-- A host in capital letters is matched; one whose last label is a capital sigma is not, though
the wildcard has the same label. -/
theorem capitals_below_wildcard :
    agrees ("www" ++ "." ++ "ΝΕΟΣ.EXAMPLE") ("*." ++ "νεοσ.Example") = true ∧
      ¬ agrees ("a" ++ "." ++ "Σ") ("*." ++ "Σ") = true := by
  refine ⟨(agrees_below_iff "www" "νεοσ.Example" "ΝΕΟΣ.EXAMPLE" (by decide +kernel)
    (by decide +kernel) (by decide +kernel)).mpr (by decide +kernel), fun h => ?_⟩
  exact (agrees_below_iff "a" "Σ" "Σ" (by decide +kernel) rfl (by decide +kernel)).mp h
    (by decide +kernel)

end PeerCheck.Host
