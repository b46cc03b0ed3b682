import PeerCheck.Cert.Subject
import PeerCheck.Proofs.Text.Search
import Mathlib.Data.List.TakeWhile

/-!
# Escaped texts

Escaping puts backslashes in, and nothing else changes. So a text without a backslash was written
as it is (`escapeLast_flatMap_eq_self`), and where a comma stands a backslash comes before it
(`guarded_escapeLast`). The key of the common name is found in an escaped text where it is found in
the text (`after?_escapeText`).
-/

namespace PeerCheck.Cert

open PeerCheck.Text

def escapeInside (cs : List Char) : List Char := cs.flatMap escapeChar

/-- A character is written as it is, or, having no part in the key, behind a backslash. -/
theorem escapeChar_cases (c : Char) :
    (escapeChar c = [c] ∧ c ≠ ',' ∧ c ≠ '\\') ∨
      c ∉ commonNameKey ∧ ∃ w, escapeChar c = '\\' :: w ∧ ∀ e ∈ w, e ∉ commonNameKey := by
  have hkey : ∀ e ∈ escapedAnywhere, e ∉ commonNameKey := by simp [escapedAnywhere, commonNameKey]
  rw [escapeChar]
  split
  · rename_i h
    have hc := hkey c (by simpa using h)
    exact .inr ⟨hc, [c], rfl, by simpa using hc⟩
  · rename_i h
    split
    · rename_i h0
      exact .inr ⟨by rw [h0]; decide, ['0', '0'], rfl, by simp [commonNameKey]⟩
    · refine .inl ⟨rfl, ?_, ?_⟩ <;> rintro rfl <;> exact h (by simp [escapedAnywhere])

theorem escapeInside_cons (c : Char) (cs : List Char) :
    escapeInside (c :: cs) = escapeChar c ++ escapeInside cs := List.flatMap_cons ..

theorem escapeText_eq (cs : List Char) :
    escapeText cs = escapeLast (escapeFirst (escapeInside cs)) := rfl

/-! ## Commas -/

/-- A comma, if there is one, has a backslash somewhere before it. -/
def Guarded (z : List Char) : Prop := ',' ∈ z → '\\' ∈ z.takeWhile (· != ',')

theorem guarded_cons {c : Char} {z : List Char} (hc : c ≠ ',') (h : Guarded z) :
    Guarded (c :: z) := by
  intro hm
  have hz := h (by simpa [hc.symm] using hm)
  simp [hc, hz]

theorem guarded_backslash (z : List Char) : Guarded ('\\' :: z) := by
  intro _
  simp

theorem guarded_escapeInside (cs : List Char) : Guarded (escapeInside cs) := by
  induction cs with
  | nil => exact fun h => by simp [escapeInside] at h
  | cons c cs ih =>
    rw [escapeInside_cons]
    rcases escapeChar_cases c with ⟨he, hc, -⟩ | ⟨-, w, he, -⟩ <;> rw [he]
    · exact guarded_cons hc ih
    · exact guarded_backslash _

theorem guarded_escapeFirst {z : List Char} (h : Guarded z) : Guarded (escapeFirst z) := by
  cases z with
  | nil => exact h
  | cons c z =>
    rw [escapeFirst]
    split
    · exact guarded_backslash _
    · exact h

theorem takeWhile_append_of_mem {y : List Char} (h : ',' ∈ y) (t : List Char) :
    (y ++ t).takeWhile (· != ',') = y.takeWhile (· != ',') := by
  rw [List.takeWhile_append, if_neg]
  intro hlen
  have hall := List.takeWhile_eq_self_iff.1 ((List.takeWhile_sublist _).eq_of_length hlen)
  simpa using hall ',' h

theorem guarded_escapeLast {z : List Char} (h : Guarded z) : Guarded (escapeLast z) := by
  rw [escapeLast]
  split
  · rename_i hl
    obtain ⟨y, rfl⟩ := List.getLast?_eq_some_iff.1 hl
    rw [List.dropLast_concat]
    intro hm
    have hy : ',' ∈ y := by simpa using hm
    have hz := h (by simp [hy])
    rwa [takeWhile_append_of_mem hy] at hz ⊢
  · exact h

theorem guarded_escapeText (cs : List Char) : Guarded (escapeText cs) :=
  guarded_escapeLast (guarded_escapeFirst (guarded_escapeInside cs))

/-- Without a backslash before the first comma, a guarded text ends before that comma. -/
theorem Guarded.takeWhile_append {z tail : List Char} (hz : Guarded z)
    (h : '\\' ∉ (z ++ tail).takeWhile (· != ',')) :
    '\\' ∉ z ∧ (z ++ tail).takeWhile (· != ',') = z ++ tail.takeWhile (· != ',') := by
  have hcomma : ',' ∉ z := by
    intro hm
    rw [takeWhile_append_of_mem hm] at h
    exact h (hz hm)
  have hall : ∀ c ∈ z, (c != ',') = true := by
    intro c hc
    rw [bne_iff_ne]
    rintro rfl
    exact hcomma hc
  rw [List.takeWhile_append_of_pos hall] at h ⊢
  exact ⟨mt (List.mem_append_left _) h, rfl⟩

/-! ## Texts written as they are -/

theorem escapeInside_eq_self {cs : List Char} (h : '\\' ∉ escapeInside cs) :
    escapeInside cs = cs := by
  induction cs with
  | nil => rfl
  | cons c cs ih =>
    rw [escapeInside_cons] at h ⊢
    rcases escapeChar_cases c with ⟨he, -, -⟩ | ⟨-, w, he, -⟩ <;> rw [he] at h ⊢
    · rw [ih (mt (List.mem_append_right _) h), List.singleton_append]
    · simp at h

theorem escapeFirst_eq_self {z : List Char} (h : '\\' ∉ escapeFirst z) : escapeFirst z = z := by
  cases z with
  | nil => rfl
  | cons c z =>
    rw [escapeFirst] at h ⊢
    split at h
    · simp at h
    · rename_i hc
      rw [if_neg hc]

theorem escapeLast_eq_self {z : List Char} (h : '\\' ∉ escapeLast z) : escapeLast z = z := by
  rw [escapeLast] at h ⊢
  split at h
  · simp at h
  · rename_i hl
    rw [if_neg hl]

theorem escapeLast_escapeInside_eq_self {cs : List Char} (h : '\\' ∉ escapeLast (escapeInside cs)) :
    escapeLast (escapeInside cs) = cs := by
  have hl := escapeLast_eq_self h
  rw [hl] at h ⊢
  exact escapeInside_eq_self h

theorem escapeText_eq_self {cs : List Char} (h : '\\' ∉ escapeText cs) : escapeText cs = cs := by
  rw [escapeText_eq] at h ⊢
  have hl := escapeLast_eq_self h
  rw [hl] at h ⊢
  have hf := escapeFirst_eq_self h
  rw [hf] at h ⊢
  exact escapeInside_eq_self h

/-! ## The key in an escaped text -/

theorem dropPrefix?_escapeInside {n : List Char}
    (hn : ∀ c ∈ n, escapeChar c = [c] ∧ c ≠ '\\') (cs : List Char) :
    dropPrefix? n (escapeInside cs) = (dropPrefix? n cs).map escapeInside := by
  induction n generalizing cs with
  | nil => rfl
  | cons a n ih =>
    obtain ⟨ha, hb⟩ := hn a (by simp)
    cases cs with
    | nil => rfl
    | cons c cs =>
      rw [escapeInside_cons]
      rcases escapeChar_cases c with ⟨he, -, -⟩ | ⟨-, w, he, -⟩
      · rw [he, List.singleton_append, dropPrefix?, dropPrefix?]
        split
        · exact ih (fun c hc => hn c (by simp [hc])) cs
        · rfl
      · have hac : a ≠ c := by
          rintro rfl
          exact hb (List.cons.inj (ha.symm.trans he)).1
        simp [he, dropPrefix?, hac, hb]

theorem after?_escapeInside (cs : List Char) :
    after? commonNameKey (escapeInside cs) = (after? commonNameKey cs).map escapeInside := by
  have hne : commonNameKey ≠ [] := by decide
  have hkey : ∀ c ∈ commonNameKey, escapeChar c = [c] ∧ c ≠ '\\' := by
    simp [commonNameKey, escapeChar, escapedAnywhere]
  induction cs with
  | nil => rfl
  | cons c cs ih =>
    rcases escapeChar_cases c with ⟨he, -, -⟩ | ⟨hc, w, he, hw⟩
    · have hp := dropPrefix?_escapeInside hkey (c :: cs)
      rw [escapeInside_cons, he, List.singleton_append] at hp ⊢
      rw [after?_cons, hp, ih, after?_cons]
      cases dropPrefix? commonNameKey (c :: cs) <;> rfl
    · have hbare : ∀ e ∈ '\\' :: w, e ∉ commonNameKey := List.forall_mem_cons.2 ⟨by decide, hw⟩
      rw [escapeInside_cons, he, after?_append_of_not_mem hbare hne, ih,
        after?_cons_of_not_mem hc hne]

theorem after?_escapeFirst (z : List Char) :
    after? commonNameKey (escapeFirst z) = after? commonNameKey z := by
  cases z with
  | nil => rfl
  | cons c z =>
    rw [escapeFirst]
    split
    · exact after?_cons_of_not_mem (by decide) (by decide) _
    · rfl

theorem escapeLast_of_getLast?_ne {z : List Char} (h : z.getLast? ≠ some ' ') : escapeLast z = z :=
  if_neg h

theorem escapeLast_concat (z : List Char) : escapeLast (z ++ [' ']) = z ++ ['\\', ' '] := by
  rw [escapeLast, if_pos List.getLast?_concat, List.dropLast_concat]

theorem after?_escapeLast (z : List Char) :
    after? commonNameKey (escapeLast z) = (after? commonNameKey z).map escapeLast := by
  have hne : commonNameKey ≠ [] := by decide
  by_cases hl : z.getLast? = some ' '
  · obtain ⟨y, rfl⟩ := List.getLast?_eq_some_iff.1 hl
    rw [escapeLast_concat, after?_append_cons (by decide) hne, after?_append_cons (by decide) hne]
    cases after? commonNameKey y with
    | none => rfl
    | some q => exact congrArg some (escapeLast_concat q).symm
  · rw [escapeLast_of_getLast?_ne hl]
    cases h : after? commonNameKey z with
    | none => rfl
    | some q =>
      obtain ⟨before, rfl⟩ := append_of_after? h
      rw [Option.map_some, escapeLast_of_getLast?_ne]
      intro hq
      exact hl (by rw [List.getLast?_append, hq]; rfl)

/-- What follows the key in an escaped text is what follows it in the text, escaped but at its
front. -/
theorem after?_escapeText (cs : List Char) :
    after? commonNameKey (escapeText cs) =
      (after? commonNameKey cs).map fun q => escapeLast (escapeInside q) := by
  rw [escapeText_eq, after?_escapeLast, after?_escapeFirst, after?_escapeInside, Option.map_map]
  rfl

/-! ## Texts of which nothing is escaped -/

/-- None of the characters that are escaped wherever they stand, no number sign or blank at the
front, and no blank at the end. -/
def IsUnescaped (cs : List Char) : Prop :=
  (∀ c ∈ cs, c ∉ escapedAnywhere ∧ c ≠ '\x00') ∧
    cs.head? ≠ some '#' ∧ cs.head? ≠ some ' ' ∧ cs.getLast? ≠ some ' '

instance (cs : List Char) : Decidable (IsUnescaped cs) := inferInstanceAs (Decidable (_ ∧ _ ∧ _ ∧ _))

theorem escapeChar_of_not_mem {c : Char} (h : c ∉ escapedAnywhere ∧ c ≠ '\x00') :
    escapeChar c = [c] := by
  rw [escapeChar, if_neg (by simpa using h.1), if_neg h.2]

theorem backslash_mem_escapeChar {c : Char} (h : ¬ (c ∉ escapedAnywhere ∧ c ≠ '\x00')) :
    '\\' ∈ escapeChar c := by
  rw [escapeChar]
  split
  · exact List.mem_cons_self
  · next hany =>
    have hnull : c = '\x00' := by
      by_contra hc
      exact h ⟨by simpa using hany, hc⟩
    rw [if_pos hnull]
    exact List.mem_cons_self

theorem IsUnescaped.not_comma {cs : List Char} (h : IsUnescaped cs) : ',' ∉ cs := fun hm =>
  (h.1 ',' hm).1 (by decide)

theorem escapeInside_of_forall {cs : List Char} (h : ∀ c ∈ cs, c ∉ escapedAnywhere ∧ c ≠ '\x00') :
    escapeInside cs = cs := by
  induction cs with
  | nil => rfl
  | cons c cs ih =>
    obtain ⟨hc, hcs⟩ := List.forall_mem_cons.1 h
    rw [escapeInside_cons, escapeChar_of_not_mem hc, ih hcs, List.singleton_append]

theorem escapeText_of_isUnescaped {cs : List Char} (h : IsUnescaped cs) : escapeText cs = cs := by
  obtain ⟨hall, hsign, hblank, hlast⟩ := h
  have hfirst : escapeFirst cs = cs := by
    cases cs with
    | nil => rfl
    | cons c cs =>
      rw [escapeFirst, if_neg]
      rintro (rfl | rfl)
      · exact hsign rfl
      · exact hblank rfl
  rw [escapeText_eq, escapeInside_of_forall hall, hfirst, escapeLast_of_getLast?_ne hlast]

theorem isUnescaped_of_not_mem_escapeText {cs : List Char} (h : '\\' ∉ escapeText cs) :
    IsUnescaped cs := by
  rw [escapeText_eq] at h
  have hlast : (escapeFirst (escapeInside cs)).getLast? ≠ some ' ' := by
    intro hblank
    rw [escapeLast, if_pos hblank] at h
    simp at h
  rw [escapeLast_of_getLast?_ne hlast] at h
  have hfirst : ∀ c, (escapeInside cs).head? = some c → ¬ (c = '#' ∨ c = ' ') := by
    intro c hc hsign
    obtain ⟨z, hz⟩ := List.head?_eq_some_iff.1 hc
    rw [hz, escapeFirst, if_pos hsign] at h
    simp at h
  have hself := escapeFirst_eq_self h
  rw [hself] at h hlast
  have hall : ∀ c ∈ cs, c ∉ escapedAnywhere ∧ c ≠ '\x00' := fun c hc => by
    by_contra hescaped
    exact h (List.mem_flatMap.2 ⟨c, hc, backslash_mem_escapeChar hescaped⟩)
  rw [escapeInside_of_forall hall] at hfirst hlast
  exact ⟨hall, fun hs => hfirst _ hs (.inl rfl), fun hb => hfirst _ hb (.inr rfl), hlast⟩

end PeerCheck.Cert
