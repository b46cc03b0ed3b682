import PeerCheck.Proofs.Text.Casing
import PeerCheck.Proofs.Text.Lowering

/-!
# Blanks at the ends of a text

Trimming takes off all blanks at both ends, whatever blanks are put there (`trim_between`), and
lowering neither brings a blank to an end of a text nor takes one away (`startsBlank_lower`,
`endsBlank_lower`).
-/

namespace PeerCheck.Text

variable {c : Char} {cs ds : List Char}

def startsBlank (cs : List Char) : Bool := cs.head?.any isBlank

def endsBlank (cs : List Char) : Bool := cs.getLast?.any isBlank

/-! ## Trimming -/

theorem trimLeft_append (cs ds : List Char) :
    trimLeft isBlank (cs ++ ds) =
      if (trimLeft isBlank cs).isEmpty then trimLeft isBlank ds else trimLeft isBlank cs ++ ds :=
  List.dropWhile_append

theorem trimLeft_of_blank (h : ∀ c ∈ cs, isBlank c = true) : trimLeft isBlank cs = [] :=
  List.dropWhile_eq_nil_iff.mpr h

theorem startsBlank_trimLeft (cs : List Char) : startsBlank (trimLeft isBlank cs) = false := by
  have h := List.head?_dropWhile_not isBlank cs
  unfold startsBlank trimLeft
  cases hd : (cs.dropWhile isBlank).head? with
  | none => rfl
  | some c =>
    rw [hd] at h
    simpa using h

theorem trimLeft_of_startsBlank (h : startsBlank cs = false) : trimLeft isBlank cs = cs := by
  cases cs with
  | nil => rfl
  | cons c cs => exact List.dropWhile_cons_of_neg (by simpa [startsBlank] using h)

theorem trimRight_eq (cs : List Char) :
    trimRight isBlank cs = (trimLeft isBlank cs.reverse).reverse := rfl

theorem endsBlank_eq (cs : List Char) : endsBlank cs = startsBlank cs.reverse := by
  rw [endsBlank, startsBlank, List.head?_reverse]

theorem endsBlank_trimRight (cs : List Char) : endsBlank (trimRight isBlank cs) = false := by
  rw [endsBlank_eq, trimRight_eq, List.reverse_reverse, startsBlank_trimLeft]

theorem trimRight_of_endsBlank (h : endsBlank cs = false) : trimRight isBlank cs = cs := by
  rw [endsBlank_eq] at h
  rw [trimRight_eq, trimLeft_of_startsBlank h, List.reverse_reverse]

/-- Blanks after a text are trimmed off. -/
theorem trimRight_append (h : ∀ c ∈ ds, isBlank c = true) :
    trimRight isBlank (cs ++ ds) = trimRight isBlank cs := by
  have hr : ∀ c ∈ ds.reverse, isBlank c = true := fun c hc => h c (List.mem_reverse.mp hc)
  rw [trimRight_eq, List.reverse_append, trimLeft_append, trimLeft_of_blank hr, trimRight_eq]
  rfl

theorem endsBlank_trim (cs : List Char) : endsBlank (trim cs) = false := endsBlank_trimRight _

theorem startsBlank_trim (cs : List Char) : startsBlank (trim cs) = false := by
  have h : trim cs <+: trimLeft isBlank cs := by
    rw [trim, trimBy, trimRight_eq, ← List.reverse_suffix, List.reverse_reverse]
    exact List.dropWhile_suffix _
  obtain ⟨ds, h⟩ := h
  have hs := startsBlank_trimLeft cs
  rw [← h] at hs
  cases ht : trim cs with
  | nil => rfl
  | cons c cs =>
    rw [ht] at hs
    exact hs

/-- Blanks around a text are no part of it. -/
theorem trim_between {ws : List Char} (hw : ∀ c ∈ ws, isBlank c = true)
    (hd : ∀ c ∈ ds, isBlank c = true) : trim (ws ++ cs ++ ds) = trim cs := by
  have hleft : trimLeft isBlank (ws ++ cs) = trimLeft isBlank cs := by
    rw [trimLeft_append, trimLeft_of_blank hw]
    rfl
  rw [trim, trimBy, trimLeft_append, hleft, trim, trimBy]
  split
  · next hempty =>
    rw [trimLeft_of_blank hd, List.isEmpty_iff.mp hempty]
  · exact trimRight_append hd

/-- A text that does not end in a blank keeps what follows its first character proper. -/
theorem trim_append_cons (hc : isBlank c = false) (he : endsBlank (c :: ds) = false) :
    trim (cs ++ c :: ds) = trimLeft isBlank cs ++ c :: ds := by
  have hends : endsBlank (trimLeft isBlank cs ++ c :: ds) = false := by
    unfold endsBlank at he ⊢
    rw [List.getLast?_append_of_ne_nil _ (List.cons_ne_nil c ds)]
    exact he
  rw [trim, trimBy, ← trimRight_of_endsBlank hends, trimLeft_append]
  split
  · next hempty =>
    have hstart : startsBlank (c :: ds) = false := hc
    rw [List.isEmpty_iff.mp hempty, trimLeft_of_startsBlank hstart]
    rfl
  · rfl

theorem sameLetters_trimLeft (h : SameLetters cs ds) :
    SameLetters (trimLeft isBlank cs) (trimLeft isBlank ds) := by
  induction h with
  | nil => exact .nil
  | @cons c d cs ds hc h ih =>
    unfold trimLeft
    rw [List.dropWhile_cons, List.dropWhile_cons, hc.blank]
    split
    · exact ih
    · exact .cons hc h

theorem sameLetters_trim (h : SameLetters cs ds) : SameLetters (trim cs) (trim ds) := by
  have hr := List.rel_reverse (sameLetters_trimLeft h)
  exact List.rel_reverse (sameLetters_trimLeft hr)

/-! ## Lowering and blanks -/

theorem anyCovers_eq_false {ranges : List CodeRange}
    (h : ∀ r ∈ ranges, c.toNat < r.first ∨ r.last < c.toNat) :
    CodeRange.anyCovers ranges c = false := by
  rw [CodeRange.anyCovers, List.any_eq_false]
  intro r hr hc
  simp only [CodeRange.covers, Bool.and_eq_true, decide_eq_true_eq] at hc
  have := h r hr
  omega

/-- No run of the table leads from a blank or to one. -/
theorem runs_apart_from_blanks : (lowerRuns.all fun run => blankRanges.all fun r =>
    (run.last < r.first || r.last < run.first) &&
      ((run.last + run.offset).toNat < r.first ||
        r.last < (run.first + run.offset).toNat)) = true := by
  decide +kernel

theorem isBlank_toLower : ∀ n < 0x80, isBlank (Char.ofNat n).toLower = isBlank (Char.ofNat n) := by
  decide +kernel

theorem isBlank_null : isBlank (Char.ofNat 0) = false := by decide

theorem isBlank_lowerChar (c : Char) : isBlank (lowerChar c) = isBlank c := by
  unfold lowerChar
  split
  · next h =>
    have hascii := isBlank_toLower c.toNat h
    rwa [Char.ofNat_toNat] at hascii
  · cases hf : lowerRuns.find? (·.covers c.toNat) with
    | none => rfl
    | some run =>
      have hcov := List.find?_some hf
      simp only [CaseRun.covers, Bool.and_eq_true, decide_eq_true_eq] at hcov
      have hapart := List.all_eq_true.mp runs_apart_from_blanks run (List.mem_of_find?_eq_some hf)
      simp only [List.all_eq_true, Bool.and_eq_true, Bool.or_eq_true, decide_eq_true_eq] at hapart
      have hsource : isBlank c = false := by
        refine anyCovers_eq_false fun r hr => ?_
        have := (hapart r hr).1
        omega
      have himage : isBlank (Char.ofNat (c.toNat + run.offset).toNat) = false := by
        obtain hn | hn := toNat_ofNat_cases (c.toNat + run.offset).toNat
        · refine anyCovers_eq_false fun r hr => ?_
          have := (hapart r hr).2
          rw [hn]
          omega
        · rw [← Char.ofNat_toNat (Char.ofNat (c.toNat + run.offset).toNat), hn]
          exact isBlank_null
      exact himage.trans hsource.symm

/-- What a character is lowered to is all blank, if the character is, or else not blank at all. -/
theorem isBlank_of_mem_lowerImage {before after : List Char} {d : Char}
    (h : d ∈ lowerImage before c after) : isBlank d = isBlank c := by
  unfold lowerImage at h
  split at h
  · next hc =>
    subst hc
    rw [List.mem_singleton] at h
    subst h
    split <;> decide
  · split at h
    · next hc =>
      subst hc
      rw [List.mem_pair] at h
      obtain rfl | rfl := h <;> decide
    · rw [List.mem_singleton.mp h, isBlank_lowerChar]

theorem lowerImage_ne_nil (before : List Char) (c : Char) (after : List Char) :
    lowerImage before c after ≠ [] := by
  unfold lowerImage
  split
  · exact List.cons_ne_nil _ _
  · split <;> exact List.cons_ne_nil _ _

theorem startsBlank_lower (cs : List Char) : startsBlank (lower cs) = startsBlank cs := by
  cases cs with
  | nil => rfl
  | cons c cs =>
    obtain ⟨d, rest, h⟩ := List.exists_cons_of_ne_nil (lowerImage_ne_nil [] c cs)
    have hd : isBlank d = isBlank c := isBlank_of_mem_lowerImage (by rw [h]; exact List.mem_cons_self)
    rw [lower, lowerAfter_cons, h]
    exact hd

theorem endsBlank_lower (cs : List Char) : endsBlank (lower cs) = endsBlank cs := by
  obtain rfl | ⟨cs, c, rfl⟩ := List.eq_nil_or_concat cs
  · rfl
  · have hlast : lowerAfter (cs.reverse ++ []) [c] = lowerImage (cs.reverse ++ []) c [] :=
      List.append_nil _
    have hne := lowerImage_ne_nil (cs.reverse ++ []) c []
    have hd := isBlank_of_mem_lowerImage (List.getLast_mem hne)
    unfold endsBlank
    rw [lower, List.concat_eq_append, lowerAfter_append, hlast,
      List.getLast?_append_of_ne_nil _ hne, List.getLast?_eq_some_getLast hne, List.getLast?_concat]
    exact hd

end PeerCheck.Text
