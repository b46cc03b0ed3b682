import PeerCheck.Text.Casing
import Mathlib

/-!
# Characters without case

Lower-casing neither takes away nor brings in an ASCII character that comes before the small
letters and is no capital: punctuation and digits of a lowered text are those of the text itself
(`mem_lower_iff`).
-/

namespace PeerCheck.Text

/-- An ASCII character before the small letters that is no capital. -/
def IsPlain (c : Char) : Prop := 0 < c.toNat ∧ c.toNat < 0x61 ∧ ¬ c.isUpper

instance (c : Char) : Decidable (IsPlain c) := inferInstanceAs (Decidable (_ ∧ _ ∧ _))

/-- No run of the table leads below the small letters. -/
theorem small_le_of_mem_lowerRuns : ∀ r ∈ lowerRuns, 0x61 ≤ (r.first : Int) + r.offset := by
  decide +kernel

theorem toNat_ofNat_cases (n : Nat) : (Char.ofNat n).toNat = n ∨ (Char.ofNat n).toNat = 0 := by
  by_cases h : n.isValidChar
  · exact .inl (by simp [Char.ofNat, h, Char.toNat, Char.ofNatAux])
  · exact .inr (by simp [Char.ofNat, h])

theorem toLower_of_not_isUpper {c : Char} (h : ¬ c.isUpper) : c.toLower = c :=
  dif_neg (by simpa [Char.isUpper] using h)

theorem capital_bounds {c : Char} (h : c.isUpper) : 0x41 ≤ c.toNat ∧ c.toNat ≤ 0x5A := by
  simpa [Char.isUpper, UInt32.le_iff_toNat_le] using h

theorem small_le_toLower {c : Char} (h : c.isUpper) : 0x61 ≤ c.toLower.toNat := by
  have hb := capital_bounds h
  rw [Char.toLower, dif_pos (by simpa [Char.isUpper] using h)]
  simp only [Char.toNat, UInt32.toNat_add] at hb ⊢
  have : ('a'.val - 'A'.val).toNat = 32 := rfl
  omega

theorem lowerChar_of_isPlain {c : Char} (hc : IsPlain c) : lowerChar c = c := by
  obtain ⟨-, hlt, hup⟩ := hc
  rw [lowerChar, if_pos (by omega), toLower_of_not_isUpper hup]

/-- Only a plain character itself has it as its lower case. -/
theorem eq_of_lowerChar_eq {c d : Char} (hd : IsPlain d) (h : lowerChar c = d) : c = d := by
  obtain ⟨hpos, hlt, -⟩ := hd
  rw [lowerChar] at h
  split at h
  · by_cases hup : c.isUpper
    · have := small_le_toLower hup
      rw [h] at this
      omega
    · rwa [toLower_of_not_isUpper hup] at h
  · split at h
    · rename_i run hrun
      have hmem := small_le_of_mem_lowerRuns run (List.mem_of_find?_eq_some hrun)
      have hcov := List.find?_some hrun
      simp [CaseRun.covers] at hcov
      rcases toNat_ofNat_cases (c.toNat + run.offset).toNat with hn | hn <;> rw [h] at hn <;> omega
    · exact h

theorem mem_lowerAfter_iff {d : Char} (hd : IsPlain d) (before cs : List Char) :
    d ∈ lowerAfter before cs ↔ d ∈ cs := by
  induction cs generalizing before with
  | nil => rfl
  | cons c cs ih =>
    rw [lowerAfter, List.mem_append, ih, List.mem_cons, or_congr_left]
    split
    · rename_i hc
      have hne : d ≠ 'Σ' ∧ d ≠ 'ς' ∧ d ≠ 'σ' := by
        refine ⟨?_, ?_, ?_⟩ <;> rintro rfl <;> revert hd <;> decide
      split <;> simp [hc, hne]
    · split
      · rename_i hc
        have hne : d ≠ 'İ' ∧ d ≠ 'i' ∧ d ≠ '\u0307' := by
          refine ⟨?_, ?_, ?_⟩ <;> rintro rfl <;> revert hd <;> decide
        simp [hc, hne]
      · rw [List.mem_singleton]
        constructor
        · exact fun h => (eq_of_lowerChar_eq hd h.symm).symm
        · rintro rfl
          exact (lowerChar_of_isPlain hd).symm

/-- A plain character is in a lowered text just when it is in the text. -/
theorem mem_lower_iff {d : Char} (hd : IsPlain d) (cs : List Char) : d ∈ lower cs ↔ d ∈ cs :=
  mem_lowerAfter_iff hd [] cs

end PeerCheck.Text
