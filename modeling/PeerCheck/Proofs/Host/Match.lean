import PeerCheck.Host.Match
import PeerCheck.Proofs.Text.Casing
import PeerCheck.Proofs.Text.Search

/-!
# What an agreeing host holds

A host that agrees with a common name holds every plain character of it, but for the star of a
wildcard (`mem_of_agrees`).
-/

namespace PeerCheck.Host

open PeerCheck.Text

theorem cons_of_isWildcard {cn : List Char} (h : isWildcard cn) : ∃ t, cn = '*' :: '.' :: t := by
  obtain ⟨t, ht⟩ := Option.isSome_iff_exists.1 h
  exact ⟨t, append_of_dropPrefix? ht⟩

/-- Two texts that match in compared form share their plain characters, the star apart. -/
theorem mem_of_matchesNormalized {d : Char} (hd : d ≠ '*') {host cn : List Char}
    (h : matchesNormalized host cn) (hm : d ∈ cn) : d ∈ host := by
  rw [matchesNormalized] at h
  split at h
  · rename_i hw
    rw [wildcardAllowed, Bool.and_eq_true] at hw
    obtain ⟨t, rfl⟩ := cons_of_isWildcard hw.1
    have hsuffix : ('.' :: t) <:+ host := by simpa [endsWith] using h
    exact hsuffix.subset (by simpa [hd] using hm)
  · rwa [eq_of_beq h]

theorem subset_trim (cs : List Char) : trim cs ⊆ cs := by
  intro c hc
  rw [trim, trimBy, trimRight, List.mem_reverse] at hc
  have h := (List.dropWhile_sublist _).subset hc
  rw [List.mem_reverse, trimLeft] at h
  exact (List.dropWhile_sublist _).subset h

theorem mem_of_agrees {d : Char} (hd : IsPlain d) (hstar : d ≠ '*') {host cn : String}
    (h : agrees host cn) (hm : d ∈ cn.toList) : d ∈ host.toList := by
  have hn : d ∈ (normalizeName cn).toList := by
    rw [normalizeName, String.toList_ofList]
    exact (mem_lower_iff hd _).2 hm
  have hh := mem_of_matchesNormalized hstar h hn
  rw [normalizeHost, String.toList_ofList, mem_lower_iff hd] at hh
  exact subset_trim _ hh

end PeerCheck.Host
