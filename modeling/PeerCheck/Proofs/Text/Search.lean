import PeerCheck.Text.Search
import Mathlib.Data.List.Infix

/-!
# The first occurrence

`cutAt?` cuts where the needle occurs first (`cutAt?_eq_some_iff`), and fails only where it does not
occur (`cutAt?_eq_none_iff`). `after?` is what follows the first occurrence. A needle is never found
across a character it does not hold, so a search goes through joined parts one by one
(`after?_append_cons`, `after?_joinWith`).
-/

namespace PeerCheck.Text

variable {α : Type} [BEq α] [LawfulBEq α] {needle : List α}

theorem dropPrefix?_append (p s : List α) : dropPrefix? p (p ++ s) = some s := by
  induction p with
  | nil => rfl
  | cons a p ih => simp [dropPrefix?, ih]

theorem append_of_dropPrefix? {p s rest : List α} (h : dropPrefix? p s = some rest) :
    s = p ++ rest := by
  fun_induction dropPrefix? p s with
  | case1 s => simpa using h
  | case2 => cases h
  | case3 a p b s hab ih => rw [eq_of_beq hab, ih h]; rfl
  | case4 => cases h

theorem dropPrefix?_eq_none_iff {p s : List α} : dropPrefix? p s = none ↔ ¬ p <+: s := by
  constructor
  · rintro h ⟨rest, rfl⟩
    rw [dropPrefix?_append] at h
    cases h
  · intro h
    rw [Option.eq_none_iff_forall_ne_some]
    exact fun rest hs => h ⟨rest, (append_of_dropPrefix? hs).symm⟩

/-- What a search splits, it keeps. -/
theorem append_of_cutAt? {s before after : List α} (h : cutAt? needle s = some (before, after)) :
    s = before ++ needle ++ after := by
  induction s generalizing before with
  | nil =>
    obtain ⟨hn, hb, ha⟩ : needle = [] ∧ [] = before ∧ [] = after := by simpa [cutAt?] using h
    simp [hn, ← hb, ← ha]
  | cons a s ih =>
    rw [cutAt?] at h
    cases hp : dropPrefix? needle (a :: s) with
    | some rest =>
      obtain ⟨rfl, rfl⟩ : [] = before ∧ rest = after := by simpa [hp] using h
      simpa using append_of_dropPrefix? hp
    | none =>
      rw [hp] at h
      obtain ⟨⟨b, q⟩, hb, he⟩ := Option.map_eq_some_iff.1 h
      obtain ⟨rfl, rfl⟩ : a :: b = before ∧ q = after := by simpa using he
      simp [ih hb]

theorem cutAt?_eq_none_iff {s : List α} : cutAt? needle s = none ↔ ¬ needle <:+: s := by
  induction s with
  | nil => cases needle <;> simp [cutAt?]
  | cons a s ih =>
    rw [List.infix_cons_iff, cutAt?]
    cases hp : dropPrefix? needle (a :: s) with
    | some rest => simp [append_of_dropPrefix? hp]
    | none =>
      have hn := dropPrefix?_eq_none_iff.1 hp
      simp [ih, hn]

/-! ## Where it is cut -/

/-- In what precedes the cut the needle does not occur. -/
theorem not_infix_of_cutAt? (hne : needle ≠ []) {s before after : List α}
    (h : cutAt? needle s = some (before, after)) : ¬ needle <:+: before := by
  induction s generalizing before with
  | nil => simp [cutAt?, hne] at h
  | cons a s ih =>
    rw [cutAt?] at h
    cases hp : dropPrefix? needle (a :: s) with
    | some rest =>
      obtain ⟨rfl, -⟩ : [] = before ∧ rest = after := by simpa [hp] using h
      rwa [List.infix_nil]
    | none =>
      rw [hp] at h
      obtain ⟨⟨b, q⟩, hb, he⟩ := Option.map_eq_some_iff.1 h
      obtain ⟨rfl, rfl⟩ : a :: b = before ∧ q = after := by simpa using he
      rw [List.infix_cons_iff, not_or]
      refine ⟨fun hpre => dropPrefix?_eq_none_iff.1 hp (hpre.trans ?_), ih hb⟩
      rw [append_of_cutAt? hb, List.append_assoc]
      exact List.prefix_append (a :: b) _

omit [BEq α] [LawfulBEq α] in
/-- Two occurrences of a needle that repeats no character do not overlap. -/
theorem eq_nil_of_overlap (hnodup : needle.Nodup) {t x y : List α}
    (h : needle ++ x = t ++ (needle ++ y)) (ht : ¬ needle <:+: t) : t = [] := by
  obtain ⟨u, rfl, -⟩ | ⟨u, hneedle, hy⟩ := List.append_eq_append_iff.1 h
  · exact absurd (List.prefix_append needle u).isInfix ht
  · cases t with
    | nil => rfl
    | cons a t =>
      cases u with
      | nil =>
        rw [List.append_nil] at hneedle
        exact absurd (hneedle ▸ List.infix_rfl) ht
      | cons b u =>
        -- the second occurrence begins with the first character, within the first one
        rw [hneedle, List.cons_append, List.cons_append, List.cons_append] at hy
        obtain rfl : a = b := (List.cons.inj hy).1
        rw [hneedle, List.cons_append, List.nodup_cons] at hnodup
        exact absurd (List.mem_append_right t List.mem_cons_self) hnodup.1

omit [BEq α] [LawfulBEq α] in
/-- There is one place at most where such a needle occurs and not before. -/
theorem first_unique (hnodup : needle.Nodup) {before after before' after' : List α}
    (h : before ++ needle ++ after = before' ++ needle ++ after') (hb : ¬ needle <:+: before)
    (hb' : ¬ needle <:+: before') : before = before' ∧ after = after' := by
  have hbefore : before = before' := by
    rw [List.append_assoc, List.append_assoc] at h
    obtain ⟨t, rfl, ht⟩ | ⟨t, rfl, ht⟩ := List.append_eq_append_iff.1 h
    · rw [eq_nil_of_overlap hnodup ht fun hi => hb' (hi.trans (List.suffix_append before t).isInfix),
        List.append_nil]
    · rw [eq_nil_of_overlap hnodup ht fun hi => hb (hi.trans (List.suffix_append before' t).isInfix),
        List.append_nil]
  subst hbefore
  exact ⟨rfl, List.append_cancel_left h⟩

/-- A search cuts where the needle occurs and not before. -/
theorem cutAt?_eq_some_iff (hne : needle ≠ []) (hnodup : needle.Nodup)
    {s before after : List α} : cutAt? needle s = some (before, after) ↔
      s = before ++ needle ++ after ∧ ¬ needle <:+: before := by
  refine ⟨fun h => ⟨append_of_cutAt? h, not_infix_of_cutAt? hne h⟩, ?_⟩
  rintro ⟨rfl, hbefore⟩
  cases hcut : cutAt? needle (before ++ needle ++ after) with
  | none => exact absurd ⟨before, after, rfl⟩ (cutAt?_eq_none_iff.1 hcut)
  | some p =>
    obtain ⟨rfl, rfl⟩ :=
      first_unique hnodup (append_of_cutAt? hcut) hbefore (not_infix_of_cutAt? hne hcut)
    rfl

/-- What stands before the first `c`, or the whole text where there is none. -/
theorem takeWhile_ne_eq_iff {c : α} {s v : List α} :
    s.takeWhile (· != c) = v ↔
      ∃ rest, s = v ++ rest ∧ c ∉ v ∧ (rest = [] ∨ ∃ more, rest = c :: more) := by
  constructor
  · rintro rfl
    refine ⟨s.dropWhile (· != c), List.takeWhile_append_dropWhile.symm, fun hc => ?_, ?_⟩
    · simpa using List.all_eq_true.1 List.all_takeWhile c hc
    · have hhead := List.head?_dropWhile_not (· != c) s
      cases hrest : s.dropWhile (· != c) with
      | nil => exact .inl rfl
      | cons d more =>
        rw [hrest] at hhead
        obtain rfl : d = c := by simpa using hhead
        exact .inr ⟨more, rfl⟩
  · rintro ⟨rest, rfl, hv, hrest⟩
    have hall : ∀ d ∈ v, (d != c) = true := fun d hd => by
      rw [bne_iff_ne]
      rintro rfl
      exact hv hd
    rw [List.takeWhile_append_of_pos hall]
    obtain rfl | ⟨more, rfl⟩ := hrest
    · exact List.append_nil v
    · rw [List.takeWhile_cons_of_neg (by simp), List.append_nil]

/-! ## What follows -/

/-- What follows the first occurrence of `needle`. -/
def after? (needle s : List α) : Option (List α) := (cutAt? needle s).map Prod.snd

theorem after?_eq_none_iff {s : List α} : after? needle s = none ↔ ¬ needle <:+: s := by
  rw [after?, Option.map_eq_none_iff, cutAt?_eq_none_iff]

theorem append_of_after? {s rest : List α} (h : after? needle s = some rest) :
    ∃ before, s = before ++ needle ++ rest := by
  obtain ⟨⟨before, after⟩, hcut, rfl⟩ := Option.map_eq_some_iff.1 h
  exact ⟨before, append_of_cutAt? hcut⟩

omit [LawfulBEq α] in
theorem after?_cons (a : α) (s : List α) :
    after? needle (a :: s) = (dropPrefix? needle (a :: s)).or (after? needle s) := by
  rw [after?, cutAt?, after?]
  cases dropPrefix? needle (a :: s) with
  | some rest => rfl
  | none => cases cutAt? needle s <;> rfl

theorem after?_append_self (hne : needle ≠ []) (s : List α) :
    after? needle (needle ++ s) = some s := by
  cases needle with
  | nil => exact absurd rfl hne
  | cons a n =>
    have hp := dropPrefix?_append (a :: n) s
    rw [List.cons_append] at hp ⊢
    rw [after?_cons, hp, Option.some_or]

omit [LawfulBEq α] in
theorem after?_nil (hne : needle ≠ []) : after? needle [] = none := by
  simp [after?, cutAt?, hne]

theorem dropPrefix?_append_cons {c : α} (hc : c ∉ needle) (x y : List α) :
    dropPrefix? needle (x ++ c :: y) = (dropPrefix? needle x).map (· ++ c :: y) := by
  fun_induction dropPrefix? needle x with
  | case1 s => rfl
  | case2 a p =>
    have : a ≠ c := fun h => hc (by simp [h])
    simp [dropPrefix?, this]
  | case3 a p b s hab ih => simpa [dropPrefix?, hab] using ih (fun h => hc (by simp [h]))
  | case4 a p b s hab => simp [dropPrefix?, hab]

/-- An occurrence lies before a character that the needle does not hold, or behind it. -/
theorem after?_append_cons {c : α} (hc : c ∉ needle) (hne : needle ≠ []) (x y : List α) :
    after? needle (x ++ c :: y) = ((after? needle x).map (· ++ c :: y)).or (after? needle y) := by
  induction x with
  | nil =>
    have hp : dropPrefix? needle (c :: y) = none := by
      rw [dropPrefix?_eq_none_iff]
      rintro ⟨t, ht⟩
      cases needle with
      | nil => exact hne rfl
      | cons a n => exact hc (by simp [(List.cons.inj ht).1])
    rw [List.nil_append, after?_cons, hp, after?_nil hne]
    rfl
  | cons a x ih =>
    have hp := dropPrefix?_append_cons hc (a :: x) y
    rw [List.cons_append] at hp ⊢
    rw [after?_cons, hp, ih, after?_cons]
    cases dropPrefix? needle (a :: x) <;> rfl

theorem after?_cons_of_not_mem {c : α} (hc : c ∉ needle) (hne : needle ≠ []) (s : List α) :
    after? needle (c :: s) = after? needle s := by
  have h := after?_append_cons hc hne [] s
  rwa [after?_nil hne] at h

theorem after?_append_of_not_mem {x : List α} (hx : ∀ c ∈ x, c ∉ needle) (hne : needle ≠ [])
    (s : List α) : after? needle (x ++ s) = after? needle s := by
  induction x with
  | nil => rfl
  | cons a x ih =>
    rw [List.cons_append, after?_cons_of_not_mem (hx a (by simp)) hne,
      ih fun c hc => hx c (by simp [hc])]

omit [BEq α] [LawfulBEq α] in
theorem joinWith_cons_cons (c : α) (p q : List α) (ps : List (List α)) :
    joinWith [c] (p :: q :: ps) = p ++ c :: joinWith [c] (q :: ps) := by
  rw [joinWith, List.append_assoc, List.singleton_append]
  simp

theorem after?_joinWith_eq_none_iff {c : α} (hc : c ∉ needle) (hne : needle ≠ [])
    {parts : List (List α)} :
    after? needle (joinWith [c] parts) = none ↔ ∀ p ∈ parts, after? needle p = none := by
  induction parts with
  | nil => simp [joinWith, after?_nil hne]
  | cons part parts ih =>
    cases parts with
    | nil => simp [joinWith]
    | cons next parts =>
      rw [List.forall_mem_cons (a := part), joinWith_cons_cons, after?_append_cons hc hne,
        Option.or_eq_none_iff, Option.map_eq_none_iff, ih]

/-- The first occurrence in joined parts is the first in the first part that has one. -/
theorem after?_joinWith {c : α} (hc : c ∉ needle) (hne : needle ≠ []) {parts : List (List α)}
    {rest : List α} (h : after? needle (joinWith [c] parts) = some rest) :
    ∃ ps part qs a, parts = ps ++ part :: qs ∧ (∀ p ∈ ps, after? needle p = none) ∧
      after? needle part = some a ∧
      rest = a ++ if qs = [] then [] else c :: joinWith [c] qs := by
  induction parts with
  | nil => simp [joinWith, after?_nil hne] at h
  | cons part parts ih =>
    cases parts with
    | nil => exact ⟨[], part, [], rest, rfl, by simp, h, by simp⟩
    | cons next parts =>
      rw [joinWith_cons_cons, after?_append_cons hc hne] at h
      cases hp : after? needle part with
      | some a =>
        obtain rfl : a ++ c :: joinWith [c] (next :: parts) = rest := by simpa [hp] using h
        exact ⟨[], part, next :: parts, a, rfl, by simp, hp, by simp⟩
      | none =>
        rw [hp] at h
        obtain ⟨ps, part', qs, a, hparts, hps, hafter, ha⟩ := ih (by simpa using h)
        refine ⟨part :: ps, part', qs, a, by simp [hparts], ?_, hafter, ha⟩
        exact List.forall_mem_cons.2 ⟨hp, hps⟩

theorem after?_joinWith_of_first {c : α} (hc : c ∉ needle) (hne : needle ≠ [])
    {ps : List (List α)} {part a : List α} (hps : ∀ p ∈ ps, after? needle p = none)
    (hpart : after? needle part = some a) (qs : List (List α)) :
    after? needle (joinWith [c] (ps ++ part :: qs)) =
      some (a ++ if qs = [] then [] else c :: joinWith [c] qs) := by
  induction ps with
  | nil =>
    cases qs with
    | nil => simp [joinWith, hpart]
    | cons q qs =>
      rw [List.nil_append, joinWith_cons_cons, after?_append_cons hc hne, hpart]
      simp
  | cons p ps ih =>
    obtain ⟨hp, hps⟩ := List.forall_mem_cons.1 hps
    obtain ⟨next, rest, hnext⟩ : ∃ next rest, ps ++ part :: qs = next :: rest :=
      List.exists_cons_of_ne_nil (by simp)
    have hrest := ih hps
    rw [hnext] at hrest
    rw [List.cons_append, hnext, joinWith_cons_cons, after?_append_cons hc hne, hp, hrest]
    rfl

end PeerCheck.Text
