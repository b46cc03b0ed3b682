import PeerCheck.Proofs.Host.Match
import PeerCheck.Proofs.Text.Recasing

/-!
# What agreement does not depend on

Blanks around the host and the case of ASCII letters on either side make no difference to whether a
host agrees with a common name. Blanks at an end of the common name do: no host agrees with such a
name, for a host in compared form has none (`agrees_of_blank`).
-/

namespace PeerCheck.Host

open PeerCheck.Text

variable {host host' cn cn' : String}

theorem normalizeName_eq_of_sameLetters (h : SameLetters cn.toList cn'.toList) :
    normalizeName cn = normalizeName cn' := by
  rw [normalizeName, normalizeName, lower_eq_of_sameLetters h]

theorem normalizeHost_eq_of_sameLetters (h : SameLetters host.toList host'.toList) :
    normalizeHost host = normalizeHost host' := by
  rw [normalizeHost, normalizeHost, lower_eq_of_sameLetters (sameLetters_trim h)]

theorem normalizeHost_between {before after : String} (hb : before.toList.all isBlank = true)
    (ha : after.toList.all isBlank = true) :
    normalizeHost (before ++ host ++ after) = normalizeHost host := by
  have htrim : trim (before ++ host ++ after).toList = trim host.toList := by
    rw [String.toList_append, String.toList_append]
    exact trim_between (List.all_eq_true.mp hb) (List.all_eq_true.mp ha)
  rw [normalizeHost, htrim, normalizeHost]

/-! ## Blanks at the ends of a name -/

theorem startsBlank_normalizeHost (host : String) :
    startsBlank (normalizeHost host).toList = false := by
  rw [normalizeHost, String.toList_ofList, startsBlank_lower, startsBlank_trim]

theorem endsBlank_normalizeHost (host : String) :
    endsBlank (normalizeHost host).toList = false := by
  rw [normalizeHost, String.toList_ofList, endsBlank_lower, endsBlank_trim]

theorem endsBlank_of_suffix {cs ds : List Char} (h : cs <:+ ds) (hne : cs ≠ []) :
    endsBlank ds = endsBlank cs := by
  obtain ⟨front, rfl⟩ := h
  rw [endsBlank, endsBlank, List.getLast?_append_of_ne_nil _ hne]

/-- Texts that match in compared form begin and end in a blank both or neither, the beginning of a
wildcard apart, which is none. -/
theorem blanks_of_matchesNormalized {h c : List Char} (hm : matchesNormalized h c = true) :
    (startsBlank c = true → startsBlank h = true) ∧ endsBlank h = endsBlank c := by
  unfold matchesNormalized at hm
  split at hm
  · next hw =>
    obtain ⟨hw, -⟩ := Bool.and_eq_true_iff.mp hw
    obtain ⟨t, rfl⟩ := cons_of_isWildcard hw
    have hsuffix : ('.' :: t) <:+ h := by simpa [endsWith] using hm
    have hstar : endsBlank ('*' :: '.' :: t) = endsBlank ('.' :: t) :=
      endsBlank_of_suffix (List.suffix_cons _ _) (List.cons_ne_nil _ _)
    have hfirst : isBlank '*' = false := by decide
    refine ⟨fun hs => absurd (hfirst.symm.trans hs) Bool.false_ne_true, ?_⟩
    rw [hstar, endsBlank_of_suffix hsuffix (List.cons_ne_nil _ _)]
  · rw [eq_of_beq hm]
    exact ⟨id, rfl⟩

/-- No host agrees with a name that has a blank at an end. -/
theorem agrees_of_blank (host : String)
    (h : startsBlank cn.toList = true ∨ endsBlank cn.toList = true) : agrees host cn = false := by
  rw [← startsBlank_lower, ← endsBlank_lower] at h
  rw [Bool.eq_false_iff]
  intro ha
  obtain ⟨hs, he⟩ := blanks_of_matchesNormalized ha
  rw [startsBlank_normalizeHost] at hs
  rw [endsBlank_normalizeHost, normalizeName, String.toList_ofList] at he
  rw [normalizeName, String.toList_ofList] at hs
  obtain h | h := h
  · exact Bool.false_ne_true (hs h)
  · exact Bool.false_ne_true (he.trans h)

/-! ## Invariance -/

/-- Whether a host agrees with a name does not depend on blanks around the host, nor on the case of
ASCII letters in either; and a name that begins or ends in a blank agrees with no host. -/
theorem agrees_normalized :
    (∀ host host' cn cn' before after : String,
      Recased host.toList host'.toList → Recased cn.toList cn'.toList →
      before.toList.all isBlank = true → after.toList.all isBlank = true →
        agrees (before ++ host' ++ after) cn' = agrees host cn) ∧
    ∀ host cn : String, (startsBlank cn.toList = true ∨ endsBlank cn.toList = true) →
      agrees host cn = false := by
  refine ⟨fun host host' cn cn' before after hh hc hb ha => ?_, fun host cn => agrees_of_blank host⟩
  rw [agrees, normalizeHost_between hb ha, ← normalizeHost_eq_of_sameLetters hh.sameLetters,
    ← normalizeName_eq_of_sameLetters hc.sameLetters, ← agrees]

/-- A wildcard with a sigma at the end of a label, the host between wide and narrow blanks; and a
vetoed wildcard with a blank after it. -/
theorem mixedCase_agrees :
    agrees ("\u3000" ++ "wWw.ΝΕΟΣ.example.com" ++ "\t ") "*.ΝΕΟΣ.EXAMPLE.com" = true ∧
      agrees "*.co.uk" "*.co.uk\u00A0" = false := by
  obtain ⟨hsame, hblank⟩ := agrees_normalized
  have hhost : Recased "www.ΝΕΟΣ.EXAMPLE.com".toList "wWw.ΝΕΟΣ.example.com".toList := by
    simp [Recased, switchCase, Char.isUpper, Char.isLower]
  have hname : Recased "*.ΝΕΟΣ.example.COM".toList "*.ΝΕΟΣ.EXAMPLE.com".toList := by
    simp [Recased, switchCase, Char.isUpper, Char.isLower]
  refine ⟨?_, hblank _ _ (.inr (by decide +kernel))⟩
  rw [hsame _ _ _ _ _ _ hhost hname (by decide +kernel) (by decide +kernel)]
  decide +kernel

end PeerCheck.Host
