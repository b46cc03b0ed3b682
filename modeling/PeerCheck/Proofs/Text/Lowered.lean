import PeerCheck.Proofs.Text.Blank

/-!
# Lowered texts

Lowering a text a second time changes nothing (`lower_lower`): no run of the table leads to a
character of a run (`images_apart_from_runs`), nor to the capital that is lowered to two characters
(`images_apart_from_dotted`). A trimmed text has no blank at its ends, and neither has its lower
case, so trimming and lowering a second time changes nothing either (`lower_trim_lower_trim`).
-/

namespace PeerCheck.Text

variable {c d : Char} {before after cs : List Char}

/-! ## Runs -/

namespace CaseRun

theorem covers_iff {r : CaseRun} {n : Nat} :
    r.covers n = true ↔ r.first ≤ n ∧ n ≤ r.last ∧ (n - r.first) % r.stride = 0 := by
  simp [covers, and_assoc]

/-- The code points that those of the run are lowered to. -/
def image (run : CaseRun) : CaseRun :=
  ⟨(run.first + run.offset).toNat, (run.last + run.offset).toNat, run.stride, 0⟩

/-- The runs have no code point in common: one lies behind the other, or they alternate. -/
def misses (run r : CaseRun) : Bool :=
  Nat.blt run.last r.first || Nat.blt r.last run.first ||
    ((run.first == run.last || run.stride == 2) && r.stride == 2 && (run.first + r.first) % 2 == 1)

theorem covers_eq_false_of_misses {run r : CaseRun} {n : Nat} (hm : run.misses r = true)
    (h : run.covers n = true) : r.covers n = false := by
  rw [Bool.eq_false_iff]
  intro hr
  obtain ⟨hlow, hhigh, hstride⟩ := covers_iff.mp h
  obtain ⟨hlow', hhigh', hstride'⟩ := covers_iff.mp hr
  simp only [misses, Bool.and_eq_true, Bool.or_eq_true, beq_iff_eq, Nat.blt_eq] at hm
  obtain (hm | hm) | ⟨⟨hone | htwo, htwo'⟩, hodd⟩ := hm
  · omega
  · omega
  -- the runs alternate: their code points differ in parity
  · rw [htwo'] at hstride'
    omega
  · rw [htwo] at hstride
    rw [htwo'] at hstride'
    omega

theorem covers_image {run : CaseRun} {n : Nat} (hrun : run ∈ lowerRuns)
    (h : run.covers n = true) : run.image.covers (n + run.offset).toNat = true := by
  have hsmall := small_le_of_mem_lowerRuns run hrun
  obtain ⟨hlow, hhigh, hstride⟩ := covers_iff.mp h
  have hsteps : (n + run.offset).toNat - (run.first + run.offset).toNat = n - run.first := by omega
  refine covers_iff.mpr ⟨?_, ?_, ?_⟩
  · exact Int.toNat_le_toNat (by omega)
  · exact Int.toNat_le_toNat (by omega)
  · exact hsteps ▸ hstride

end CaseRun

theorem images_apart_from_runs :
    (lowerRuns.all fun run => lowerRuns.all run.image.misses) = true := by
  decide +kernel

theorem images_apart_from_dotted :
    (lowerRuns.all fun run => run.image.misses ⟨'İ'.toNat, 'İ'.toNat, 2, 0⟩) = true := by
  decide +kernel

/-! ## Characters -/

/-- The character is its own lower case, whatever stands around it. -/
structure IsLowered (c : Char) : Prop where
  lowerChar : lowerChar c = c
  ne_sigma : c ≠ 'Σ'
  ne_dotted : c ≠ 'İ'

theorem isLowered_of_ascii (hascii : c.toNat < 0x80) (h : ¬ c.isUpper) : IsLowered c where
  lowerChar := by rw [lowerChar, if_pos hascii, toLower_of_not_isUpper h]
  ne_sigma := by rintro rfl; exact absurd hascii (by decide)
  ne_dotted := by rintro rfl; exact absurd hascii (by decide)

theorem sigma_covered : (lowerRuns.any (·.covers 'Σ'.toNat)) = true := by decide +kernel

/-- A character beyond ASCII that no run covers is lowered to itself, but for one capital. -/
theorem isLowered_of_not_covers (hle : 0x80 ≤ c.toNat)
    (h : ∀ r ∈ lowerRuns, r.covers c.toNat = false) (hc : c ≠ 'İ') : IsLowered c where
  lowerChar := by
    have hnone : lowerRuns.find? (·.covers c.toNat) = none :=
      List.find?_eq_none.mpr fun r hr => by simp [h r hr]
    rw [lowerChar, if_neg (by omega), hnone]
  ne_sigma := by
    rintro rfl
    obtain ⟨r, hr, hcov⟩ := List.any_eq_true.mp sigma_covered
    exact Bool.false_ne_true ((h r hr).symm.trans hcov)
  ne_dotted := hc

theorem toLower_of_ascii : ∀ n < 0x80, (Char.ofNat n).toLower.toNat < 0x80 ∧
    ¬ (Char.ofNat n).toLower.isUpper := by
  decide +kernel

theorem isLowered_toLower (hascii : c.toNat < 0x80) : IsLowered c.toLower := by
  have h := toLower_of_ascii c.toNat hascii
  rw [Char.ofNat_toNat] at h
  exact isLowered_of_ascii h.1 h.2

/-- What a run leads to is lowered. -/
theorem isLowered_image {run : CaseRun} {n : Nat} (hrun : run ∈ lowerRuns)
    (h : run.covers n = true) : IsLowered (Char.ofNat (n + run.offset).toNat) := by
  have himage := CaseRun.covers_image hrun h
  have hsmall := small_le_of_mem_lowerRuns run hrun
  obtain ⟨hlow, -, -⟩ := CaseRun.covers_iff.mp h
  obtain hn | hn := toNat_ofNat_cases (n + run.offset).toNat
  · rw [← hn] at himage
    by_cases hascii : (Char.ofNat (n + run.offset).toNat).toNat < 0x80
    · refine isLowered_of_ascii hascii fun hup => ?_
      have hb := capital_bounds hup
      omega
    · refine isLowered_of_not_covers (Nat.not_lt.mp hascii) (fun r hr => ?_) ?_
      · have hapart := List.all_eq_true.mp images_apart_from_runs run hrun
        exact CaseRun.covers_eq_false_of_misses (List.all_eq_true.mp hapart r hr) himage
      · intro hdotted
        have hapart := List.all_eq_true.mp images_apart_from_dotted run hrun
        have hmiss := CaseRun.covers_eq_false_of_misses hapart himage
        rw [hdotted] at hmiss
        exact absurd hmiss (by decide)
  -- were the number no code point, the character would be null
  · rw [← Char.ofNat_toNat (Char.ofNat (n + run.offset).toNat), hn]
    exact isLowered_of_ascii (by decide) (by decide)

theorem isLowered_lowerChar (hc : c ≠ 'İ') : IsLowered (lowerChar c) := by
  by_cases hascii : c.toNat < 0x80
  · rw [lowerChar, if_pos hascii]
    exact isLowered_toLower hascii
  · rw [lowerChar, if_neg hascii]
    split
    · next run hrun =>
      have hcov := List.find?_some hrun
      exact isLowered_image (List.mem_of_find?_eq_some hrun) hcov
    · next hnone =>
      refine isLowered_of_not_covers (Nat.not_lt.mp hascii) (fun r hr => ?_) hc
      simpa using List.find?_eq_none.mp hnone r hr

theorem isLowered_of_mem_lowerImage (h : d ∈ lowerImage before c after) : IsLowered d := by
  unfold lowerImage at h
  split at h
  · rw [List.mem_singleton] at h
    subst h
    split
    · exact isLowered_of_not_covers (by decide) (by decide +kernel) (by decide)
    · exact isLowered_of_not_covers (by decide) (by decide +kernel) (by decide)
  · split at h
    · rw [List.mem_pair] at h
      obtain rfl | rfl := h
      · exact isLowered_of_ascii (by decide) (by decide)
      · exact isLowered_of_not_covers (by decide) (by decide +kernel) (by decide)
    · next hc =>
      rw [List.mem_singleton.mp h]
      exact isLowered_lowerChar hc

/-! ## Texts -/

theorem isLowered_of_mem_lowerAfter (h : d ∈ lowerAfter before cs) : IsLowered d := by
  induction cs generalizing before with
  | nil => cases h
  | cons c cs ih =>
    rw [lowerAfter_cons, List.mem_append] at h
    obtain h | h := h
    · exact isLowered_of_mem_lowerImage h
    · exact ih h

theorem lowerAfter_of_isLowered (h : ∀ c ∈ cs, IsLowered c) (before : List Char) :
    lowerAfter before cs = cs := by
  induction cs generalizing before with
  | nil => rfl
  | cons c cs ih =>
    obtain ⟨hc, hcs⟩ := List.forall_mem_cons.mp h
    rw [lowerAfter_cons, lowerImage, if_neg hc.ne_sigma, if_neg hc.ne_dotted, hc.lowerChar, ih hcs,
      List.singleton_append]

theorem lower_lower (cs : List Char) : lower (lower cs) = lower cs :=
  lowerAfter_of_isLowered (fun _ => isLowered_of_mem_lowerAfter) []

theorem trim_of_no_blanks (hs : startsBlank cs = false) (he : endsBlank cs = false) :
    trim cs = cs := by
  rw [trim, trimBy, trimLeft_of_startsBlank hs, trimRight_of_endsBlank he]

theorem lower_trim_lower_trim (cs : List Char) :
    lower (trim (lower (trim cs))) = lower (trim cs) := by
  have hs : startsBlank (lower (trim cs)) = false := by rw [startsBlank_lower, startsBlank_trim]
  have he : endsBlank (lower (trim cs)) = false := by rw [endsBlank_lower, endsBlank_trim]
  rw [trim_of_no_blanks hs he, lower_lower]

end PeerCheck.Text
