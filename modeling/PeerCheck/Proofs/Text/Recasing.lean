import PeerCheck.Proofs.Text.Blank

/-!
# Letters in the other case

Writing some ASCII letters of a text in the other case leaves the same letters
(`Recased.sameLetters`): what else is in the text, and where the words end, does not change.
-/

namespace PeerCheck.Text

def switchCase (c : Char) : Char :=
  if c.isUpper then c.toLower else if c.isLower then c.toUpper else c

/-- Some ASCII letters are written in the other case, and nothing else is changed. -/
def Recased (cs ds : List Char) : Prop := List.Forall₂ (fun c d => d = c ∨ d = switchCase c) cs ds

variable {c d : Char} {cs ds : List Char}

theorem letter_bounds (h : c.isAlpha = true) :
    (0x41 ≤ c.toNat ∧ c.toNat ≤ 0x5A) ∨ (0x61 ≤ c.toNat ∧ c.toNat ≤ 0x7A) := by
  simpa [Char.isAlpha, Char.isUpper, Char.isLower, UInt32.le_iff_toNat_le] using h

/-- No mark that is looked through is a letter. -/
theorem ignorable_apart_from_letters : (ignorableRanges.all fun r =>
    r.last < 0x41 || 0x7A < r.first || (0x5A < r.first && r.last < 0x61)) = true := by
  decide +kernel

theorem blanks_apart_from_letters : (blankRanges.all fun r =>
    r.last < 0x41 || 0x7A < r.first) = true := by
  decide

theorem isCased_of_isAlpha (h : c.isAlpha = true) : isCased c = true := by
  unfold isCased CodeRange.anyCovers
  rw [List.any_eq_true]
  obtain ⟨hl, hu⟩ | ⟨hl, hu⟩ := letter_bounds h
  · exact ⟨⟨0x41, 0x5A⟩, List.mem_cons_self, by simp [CodeRange.covers, hl, hu]⟩
  · exact ⟨⟨0x61, 0x7A⟩, List.mem_cons_of_mem _ List.mem_cons_self, by
      simp [CodeRange.covers, hl, hu]⟩

theorem isCaseIgnorable_of_isAlpha (h : c.isAlpha = true) : isCaseIgnorable c = false := by
  refine anyCovers_eq_false fun r hr => ?_
  have hb := letter_bounds h
  have ha := List.all_eq_true.mp ignorable_apart_from_letters r hr
  simp only [Bool.or_eq_true, Bool.and_eq_true, decide_eq_true_eq] at ha
  omega

theorem isBlank_of_isAlpha (h : c.isAlpha = true) : isBlank c = false := by
  refine anyCovers_eq_false fun r hr => ?_
  have hb := letter_bounds h
  have ha := List.all_eq_true.mp blanks_apart_from_letters r hr
  simp only [Bool.or_eq_true, decide_eq_true_eq] at ha
  omega

/-- Two ASCII letters of one small form are the same letter. -/
theorem sameLetter_of_toLower_eq (hc : c.isAlpha = true) (hd : d.isAlpha = true)
    (h : c.toLower = d.toLower) : SameLetter c d where
  lower := by
    have hb := letter_bounds hc
    have hb' := letter_bounds hd
    rw [lowerChar, if_pos (by omega), lowerChar, if_pos (by omega), h]
  cased := by rw [isCased_of_isAlpha hc, isCased_of_isAlpha hd]
  ignorable := by rw [isCaseIgnorable_of_isAlpha hc, isCaseIgnorable_of_isAlpha hd]
  blank := by rw [isBlank_of_isAlpha hc, isBlank_of_isAlpha hd]
  sigma := iff_of_false (by rintro rfl; cases hc) (by rintro rfl; cases hd)
  dotted := iff_of_false (by rintro rfl; cases hc) (by rintro rfl; cases hd)

theorem switchCase_of_ascii : ∀ n < 0x80, (Char.ofNat n).isAlpha = true →
    (switchCase (Char.ofNat n)).isAlpha = true ∧
      (switchCase (Char.ofNat n)).toLower = (Char.ofNat n).toLower := by
  decide +kernel

theorem switchCase_of_not_isAlpha (h : c.isAlpha = false) : switchCase c = c := by
  obtain ⟨hu, hl⟩ := Bool.or_eq_false_iff.mp h
  rw [switchCase, hu, hl]
  rfl

theorem sameLetter_switchCase (c : Char) : SameLetter c (switchCase c) := by
  cases h : c.isAlpha with
  | false =>
    rw [switchCase_of_not_isAlpha h]
    exact .refl c
  | true =>
    have hb := letter_bounds h
    have hs := switchCase_of_ascii c.toNat (by omega)
    rw [Char.ofNat_toNat] at hs
    obtain ⟨ha, hl⟩ := hs h
    exact sameLetter_of_toLower_eq h ha hl.symm

/-- The case of ASCII letters does not tell texts apart. -/
theorem Recased.sameLetters (h : Recased cs ds) : SameLetters cs ds := by
  refine List.Forall₂.imp (fun c d hd => ?_) h
  obtain rfl | rfl := hd
  · exact .refl d
  · exact sameLetter_switchCase c

end PeerCheck.Text
