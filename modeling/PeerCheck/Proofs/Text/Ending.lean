import PeerCheck.Proofs.Text.Casing
import PeerCheck.Proofs.Text.Lowering
import PeerCheck.Text.Search

/-!
# How lowered texts end

An ASCII character other than `k` is the lower case of ASCII characters only. So a lowered text ends
in some of these just where the text itself does, in whatever case (`suffix_lower_iff`).
-/

namespace PeerCheck.Text

/-- An ASCII character that is the lower case of ASCII characters only; the Kelvin sign is lowered
to `k`. -/
def IsBasic (d : Char) : Prop := 0 < d.toNat ∧ d.toNat < 0x80 ∧ d ≠ 'k'

instance (d : Char) : Decidable (IsBasic d) := inferInstanceAs (Decidable (_ ∧ _ ∧ _))

theorem lowerRuns_apart_from_basic : ∀ r ∈ lowerRuns,
    r.last < 0x80 ∨ 0x80 ≤ (r.first : Int) + r.offset ∨
      (r.first = r.last ∧ (r.first : Int) + r.offset = 'k'.toNat) := by
  decide +kernel

variable {c d : Char} {before after cs t xs : List Char}

theorem toLower_of_le (hc : 0x80 ≤ c.toNat) : c.toLower = c := by
  refine toLower_of_not_isUpper fun hup => ?_
  have hb := capital_bounds hup
  omega

theorem lowerChar_ne_of_le (hd : IsBasic d) (hc : 0x80 ≤ c.toNat) : lowerChar c ≠ d := by
  obtain ⟨hpos, hlt, hk⟩ := hd
  intro h
  rw [lowerChar, if_neg (by omega)] at h
  split at h
  · next run hrun =>
    have hcov := List.find?_some hrun
    simp only [CaseRun.covers, Bool.and_eq_true, decide_eq_true_eq] at hcov
    have hnat : (c.toNat + run.offset).toNat = d.toNat ∨ d.toNat = 0 := by
      have hcases := toNat_ofNat_cases (c.toNat + run.offset).toNat
      rw [h] at hcases
      omega
    obtain hlow | hhigh | ⟨hone, hkelvin⟩ :=
      lowerRuns_apart_from_basic run (List.mem_of_find?_eq_some hrun)
    · omega
    · omega
    · have hd : d.toNat = 'k'.toNat := by omega
      exact hk (Char.toNat_inj.mp hd)
  · rw [h] at hc
    omega

theorem lowerChar_eq_iff (hd : IsBasic d) : lowerChar c = d ↔ c.toLower = d := by
  by_cases hc : c.toNat < 0x80
  · rw [lowerChar, if_pos hc]
  · have hle : 0x80 ≤ c.toNat := Nat.not_lt.mp hc
    refine iff_of_false (lowerChar_ne_of_le hd hle) ?_
    rw [toLower_of_le hle]
    rintro rfl
    exact hc hd.2.1

theorem suffix_concat_concat_iff : t ++ [d] <:+ xs ++ [c] ↔ t <:+ xs ∧ c = d := by
  rw [← List.reverse_prefix, List.reverse_concat, List.reverse_concat, List.cons_prefix_cons,
    List.reverse_prefix, and_comm, eq_comm]

/-- The lower case of a character ends in a basic one just where it is that one. -/
theorem suffix_lowerImage_iff (hd : IsBasic d) :
    t ++ [d] <:+ xs ++ lowerImage before c after ↔ t <:+ xs ∧ c.toLower = d := by
  have hne : ∀ x : Char, 0x80 ≤ x.toNat → x ≠ d := by
    rintro x hx rfl
    have := hd.2.1
    omega
  unfold lowerImage
  split
  · next hc =>
    subst hc
    rw [suffix_concat_concat_iff, toLower_of_le (by decide)]
    have hfinal : (if startsCased before && !startsCased after then 'ς' else 'σ') ≠ d := by
      split <;> exact hne _ (by decide)
    exact iff_of_false (fun h => hfinal h.2) fun h => hne 'Σ' (by decide) h.2
  · split
    · next hc =>
      subst hc
      rw [show ['i', '\u0307'] = ['i'] ++ ['\u0307'] from rfl, ← List.append_assoc,
        suffix_concat_concat_iff, toLower_of_le (by decide)]
      exact iff_of_false (fun h => hne '\u0307' (by decide) h.2) fun h => hne 'İ' (by decide) h.2
    · rw [suffix_concat_concat_iff, lowerChar_eq_iff hd]

theorem lowerBetween_concat (before cs : List Char) (c : Char) (after : List Char) :
    lowerBetween before (cs ++ [c]) after =
      lowerBetween before cs (c :: after) ++ lowerImage (cs.reverse ++ before) c after := by
  induction cs generalizing before with
  | nil => simp [lowerBetween]
  | cons x cs ih => simp [lowerBetween, ih]

theorem suffix_lowerBetween_iff (ht : ∀ d ∈ t, IsBasic d) :
    t <:+ lowerBetween before cs after ↔
      ∃ stem, ∃ ext, cs = stem ++ ext ∧ ext.map Char.toLower = t := by
  induction t using List.reverseRecOn generalizing cs after with
  | nil =>
    refine iff_of_true List.nil_suffix ⟨cs, [], (List.append_nil cs).symm, rfl⟩
  | append_singleton t d ih =>
    have hd : IsBasic d := ht d (by simp)
    have ht' : ∀ x ∈ t, IsBasic x := fun x hx => ht x (by simp [hx])
    cases cs using List.reverseRecOn with
    | nil =>
      simp [lowerBetween]
    | append_singleton cs c =>
      rw [lowerBetween_concat, suffix_lowerImage_iff hd, ih ht']
      constructor
      · rintro ⟨⟨stem, ext, rfl, rfl⟩, rfl⟩
        exact ⟨stem, ext ++ [c], by simp, by simp⟩
      · rintro ⟨stem, ext, hcs, hext⟩
        cases ext using List.reverseRecOn with
        | nil => simp at hext
        | append_singleton ext x =>
          rw [← List.append_assoc] at hcs
          obtain ⟨rfl, hx⟩ := List.append_inj' hcs rfl
          obtain rfl := List.singleton_inj.mp hx
          rw [List.map_append] at hext
          obtain ⟨rfl, hx⟩ := List.append_inj' hext rfl
          exact ⟨⟨stem, ext, rfl, rfl⟩, List.singleton_inj.mp hx⟩

/-- The lowered text ends in some basic characters just where the text ends in them, in whatever
case. -/
theorem suffix_lower_iff (ht : ∀ d ∈ t, IsBasic d) :
    t <:+ lower cs ↔ ∃ stem, ∃ ext, cs = stem ++ ext ∧ ext.map Char.toLower = t := by
  have hlower : lower cs = lowerBetween [] cs [] := by
    have h := lowerAfter_append [] cs []
    rw [List.append_nil] at h
    exact h.trans (List.append_nil _)
  rw [hlower, suffix_lowerBetween_iff ht]

end PeerCheck.Text
