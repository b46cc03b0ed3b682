import Mathlib.Data.List.Forall2
import PeerCheck.Text.Blank
import PeerCheck.Text.Casing

/-!
# Lowering in context

Of all characters only the capital sigma is lowered by what stands around it, and of what stands
there it matters only whether a cased letter comes first on either side. So texts that hold the same
letters, be they written large or small, have one lower case (`lowerAfter_eq_of_sameLetters`), and
what stands before a text matters only if the text begins with a final sigma
(`lowerAfter_eq_iff`).
-/

namespace PeerCheck.Text

variable {c d : Char} {before before' after after' cs ds : List Char}

theorem startsCased_cons (c : Char) (cs : List Char) :
    startsCased (c :: cs) = if isCaseIgnorable c then startsCased cs else isCased c := by
  cases h : isCaseIgnorable c <;> simp [startsCased, h]

/-- The lower case of a character with what stands before it, nearest first, and after it. -/
def lowerImage (before : List Char) (c : Char) (after : List Char) : List Char :=
  if c = 'Σ' then [if startsCased before && !startsCased after then 'ς' else 'σ']
  else if c = 'İ' then ['i', '\u0307']
  else [lowerChar c]

theorem lowerAfter_cons (before : List Char) (c : Char) (cs : List Char) :
    lowerAfter before (c :: cs) = lowerImage before c cs ++ lowerAfter (c :: before) cs := rfl

/-! ## The same letters -/

/-- Two characters that are lowered alike, and alike in what they mean for others. -/
structure SameLetter (c d : Char) : Prop where
  lower : lowerChar c = lowerChar d
  cased : isCased c = isCased d
  ignorable : isCaseIgnorable c = isCaseIgnorable d
  blank : isBlank c = isBlank d
  sigma : c = 'Σ' ↔ d = 'Σ'
  dotted : c = 'İ' ↔ d = 'İ'

protected theorem SameLetter.refl (c : Char) : SameLetter c c := ⟨rfl, rfl, rfl, rfl, .rfl, .rfl⟩

abbrev SameLetters : List Char → List Char → Prop := List.Forall₂ SameLetter

theorem SameLetters.refl (cs : List Char) : SameLetters cs cs :=
  List.forall₂_same.mpr fun c _ => .refl c

theorem startsCased_eq_of_sameLetters (h : SameLetters cs ds) : startsCased cs = startsCased ds := by
  induction h with
  | nil => rfl
  | cons hc _ ih => rw [startsCased_cons, startsCased_cons, hc.ignorable, hc.cased, ih]

theorem lowerImage_eq_of_sameLetter (hc : SameLetter c d)
    (hb : startsCased before = startsCased before') (ha : startsCased after = startsCased after') :
    lowerImage before c after = lowerImage before' d after' := by
  simp only [lowerImage, hb, ha, hc.sigma, hc.dotted, hc.lower]

/-- The same letters after texts that both end in a cased letter, or both not, are lowered alike. -/
theorem lowerAfter_eq_of_sameLetters (h : SameLetters cs ds)
    (hb : startsCased before = startsCased before') :
    lowerAfter before cs = lowerAfter before' ds := by
  induction h generalizing before before' with
  | nil => rfl
  | @cons c d cs ds hc h ih =>
    have hnext : startsCased (c :: before) = startsCased (d :: before') := by
      rw [startsCased_cons, startsCased_cons, hc.ignorable, hc.cased, hb]
    rw [lowerAfter_cons, lowerAfter_cons, ih hnext,
      lowerImage_eq_of_sameLetter hc hb (startsCased_eq_of_sameLetters h)]

theorem lower_eq_of_sameLetters (h : SameLetters cs ds) : lower cs = lower ds :=
  lowerAfter_eq_of_sameLetters h rfl

/-! ## A text in two parts -/

/-- Lowers `cs`, which `before` precedes, nearest character first, and `after` follows. -/
def lowerBetween (before : List Char) : List Char → List Char → List Char
  | [], _ => []
  | c :: cs, after =>
    lowerImage before c (cs ++ after) ++ lowerBetween (c :: before) cs after

theorem lowerAfter_append (before cs ds : List Char) :
    lowerAfter before (cs ++ ds) =
      lowerBetween before cs ds ++ lowerAfter (cs.reverse ++ before) ds := by
  induction cs generalizing before with
  | nil => rfl
  | cons c cs ih =>
    rw [List.cons_append, lowerAfter_cons, ih, lowerBetween, List.append_assoc, List.reverse_cons,
      List.append_assoc, List.singleton_append]

/-! ## The final sigma -/

/-- Whether the first character that is not looked through is a capital sigma that no cased letter
follows. -/
def opensWithFinalSigma (cs : List Char) : Bool :=
  match cs.dropWhile isCaseIgnorable with
  | [] => false
  | c :: cs => c = 'Σ' && !startsCased cs

theorem opensWithFinalSigma_cons (c : Char) (cs : List Char) :
    opensWithFinalSigma (c :: cs) =
      if isCaseIgnorable c then opensWithFinalSigma cs else c = 'Σ' && !startsCased cs := by
  cases h : isCaseIgnorable c <;> simp [opensWithFinalSigma, h]

theorem isCaseIgnorable_sigma : isCaseIgnorable 'Σ' = false := by decide +kernel

theorem lowerImage_eq_of_ne (hc : c ≠ 'Σ') (before before' after : List Char) :
    lowerImage before c after = lowerImage before' c after := by
  simp only [lowerImage, hc, if_false]

theorem lowerImage_sigma (before after : List Char) :
    lowerImage before 'Σ' after = [if startsCased before && !startsCased after then 'ς' else 'σ'] :=
  if_pos rfl

/-- A cased letter before a text changes the lower case of the text just where the text begins with
a final sigma. -/
theorem lowerAfter_eq_iff (h : startsCased before = true) (h' : startsCased before' = false)
    (cs : List Char) :
    lowerAfter before cs = lowerAfter before' cs ↔ opensWithFinalSigma cs = false := by
  induction cs generalizing before before' with
  | nil => exact iff_of_true rfl rfl
  | cons c cs ih =>
    rw [lowerAfter_cons, lowerAfter_cons, opensWithFinalSigma_cons]
    by_cases hc : c = 'Σ'
    · subst hc
      have hnext : startsCased ('Σ' :: before) = startsCased ('Σ' :: before') := by
        simp only [startsCased_cons, isCaseIgnorable_sigma, Bool.false_eq_true, if_false]
      rw [lowerAfter_eq_of_sameLetters (.refl cs) hnext, List.append_left_inj, lowerImage_sigma,
        lowerImage_sigma, h, h', isCaseIgnorable_sigma]
      cases startsCased cs <;> simp
    · rw [lowerImage_eq_of_ne hc before before' cs, List.append_right_inj]
      cases hi : isCaseIgnorable c with
      | true =>
        simp only [if_true]
        exact ih (by rw [startsCased_cons, hi, if_pos rfl, h])
          (by rw [startsCased_cons, hi, if_pos rfl, h'])
      | false =>
        -- the character hides what stands before it
        have hnext : startsCased (c :: before) = startsCased (c :: before') := by
          simp only [startsCased_cons, hi, Bool.false_eq_true, if_false]
        refine iff_of_true (lowerAfter_eq_of_sameLetters (.refl cs) hnext) ?_
        simp only [hc, Bool.false_eq_true, if_false, decide_false, Bool.false_and]

end PeerCheck.Text
