import PeerCheck.Proofs.Host.Match

/-!
# Which wildcards are vetoed

The veto takes what lies between the wildcard and the last two characters of a name of seven to nine
characters. As no fragment has fewer than three characters or more than five, that is every name
made of the wildcard, a fragment and two characters, and no other (`isVetoed_iff`). A vetoed
wildcard matches itself alone, so no host below it matches (`vetoes_registry_wildcards`).
-/

namespace PeerCheck.Host

open PeerCheck.Text

variable {f t rest cn host : List Char}

/-- A wildcard over the names of a registry: behind it a vetoed fragment and two characters. -/
def IsRegistryWildcard (cn : List Char) : Prop :=
  ∃ f ∈ vetoedFragments, ∃ t, t.length = 2 ∧ cn = ['*', '.'] ++ f.toList ++ t

theorem isWildcard_of_prefix (h : ['*', '.'] <+: cn) : isWildcard cn = true := by
  obtain ⟨rest, rfl⟩ := h
  rw [isWildcard, dropPrefix?_append, Option.isSome_some]

/-! ## The window -/

theorem length_of_mem_vetoedFragments :
    ∀ f ∈ vetoedFragments, 3 ≤ f.toList.length ∧ f.toList.length ≤ 5 := by
  decide

theorem fragment_append (hf : 3 ≤ f.length ∧ f.length ≤ 5) (ht : t.length = 2) :
    fragment (['*', '.'] ++ f ++ t) = f := by
  have hlength : (['*', '.'] ++ f ++ t).length = (['*', '.'] ++ f).length + 2 := by
    rw [List.length_append, ht]
  have hwindow : 7 ≤ (['*', '.'] ++ f ++ t).length ∧ (['*', '.'] ++ f ++ t).length ≤ 9 := by
    simp only [List.length_append, List.length_cons, List.length_nil, ht]
    omega
  rw [fragment, if_pos hwindow, hlength, Nat.add_sub_cancel, List.take_left]
  rfl

/-- What lies in the window of a wildcard, with the two characters behind it, is all of the rest. -/
theorem exists_append_of_fragment (hf : f ≠ []) (h : fragment ('*' :: '.' :: rest) = f) :
    ∃ t, t.length = 2 ∧ rest = f ++ t := by
  rw [fragment] at h
  split at h
  · next hwindow =>
    -- the window ends two characters before the end, and begins where `rest` does
    simp only [List.length_cons] at hwindow h
    have htake : rest.take (rest.length - 2) = f := by
      rwa [show rest.length + 1 + 1 - 2 = rest.length - 2 + 1 + 1 by omega, List.take_succ_cons,
        List.take_succ_cons] at h
    refine ⟨rest.drop (rest.length - 2), ?_, ?_⟩
    · rw [List.length_drop]
      omega
    · rw [← htake, List.take_append_drop]
  · exact absurd h.symm hf

theorem isVetoed_iff (rest : List Char) :
    isVetoed ('*' :: '.' :: rest) = true ↔ IsRegistryWildcard ('*' :: '.' :: rest) := by
  rw [isVetoed, List.any_eq_true]
  constructor
  · rintro ⟨f, hf, heq⟩
    have hne : f.toList ≠ [] := by
      have := (length_of_mem_vetoedFragments f hf).1
      exact List.ne_nil_of_length_pos (by omega)
    obtain ⟨t, ht, rfl⟩ := exists_append_of_fragment hne (eq_of_beq heq).symm
    exact ⟨f, hf, t, ht, rfl⟩
  · rintro ⟨f, hf, t, ht, heq⟩
    rw [heq, fragment_append (length_of_mem_vetoedFragments f hf) ht]
    exact ⟨f, hf, beq_self_eq_true f.toList⟩

theorem wildcardAllowed_eq_false_iff (h : ['*', '.'] <+: cn) :
    wildcardAllowed cn = false ↔ IsRegistryWildcard cn := by
  obtain ⟨rest, rfl⟩ := h
  rw [wildcardAllowed, isWildcard_of_prefix ⟨rest, rfl⟩, Bool.true_and, Bool.not_eq_false']
  exact isVetoed_iff rest

theorem IsRegistryWildcard.starts (h : IsRegistryWildcard cn) : ['*', '.'] <+: cn := by
  obtain ⟨f, -, t, -, rfl⟩ := h
  exact ⟨f.toList ++ t, (List.append_assoc _ _ _).symm⟩

/-! ## Matching -/

theorem matchesNormalized_iff_of_not_allowed (h : wildcardAllowed cn = false) :
    matchesNormalized host cn = true ↔ host = cn := by
  rw [matchesNormalized, h]
  exact beq_iff_eq

/-- A registry's wildcard agrees with the host that is spelled like it, and no other. -/
theorem agrees_iff_of_registryWildcard {host cn : String}
    (h : IsRegistryWildcard (normalizeName cn).toList) :
    agrees host cn = true ↔ normalizeHost host = normalizeName cn := by
  have hvetoed := (wildcardAllowed_eq_false_iff h.starts).mpr h
  rw [agrees, matchesNormalized_iff_of_not_allowed hvetoed, String.toList_inj]

/-- A text that ends in what follows the star of a wildcard is the wildcard only behind a star. -/
theorem eq_star_of_wildcard (h : ['*', '.'] <+: cn) {p : List Char}
    (heq : p ++ cn.drop 1 = cn) : p = ['*'] := by
  obtain ⟨rest, rfl⟩ := h
  have htail : p ++ '.' :: rest = ['*'] ++ '.' :: rest := heq
  exact List.append_cancel_right htail

/-- A name that begins with the wildcard counts as a plain name just where a vetoed fragment and two
characters follow. Where the lower case of a common name is of this kind, a host agrees with it
only if it is the same in compared form; no host below the registry's suffix does, which has
something else than a star before the suffix. -/
theorem vetoes_registry_wildcards :
    (∀ cn : List Char, ['*', '.'] <+: cn →
      (wildcardAllowed cn = false ↔ IsRegistryWildcard cn)) ∧
    ∀ host cn : String, IsRegistryWildcard (normalizeName cn).toList →
      (agrees host cn = true ↔ normalizeHost host = normalizeName cn) ∧
      ∀ p, (normalizeHost host).toList = p ++ (normalizeName cn).toList.drop 1 → p ≠ ['*'] →
        agrees host cn = false := by
  refine ⟨fun cn => wildcardAllowed_eq_false_iff, fun host cn h => ?_⟩
  have hiff : agrees host cn = true ↔ normalizeHost host = normalizeName cn :=
    agrees_iff_of_registryWildcard h
  refine ⟨hiff, fun p hp hstar => ?_⟩
  rw [Bool.eq_false_iff]
  intro hagrees
  rw [hiff.mp hagrees] at hp
  exact hstar (eq_star_of_wildcard h.starts hp.symm)

/-- A registry whose two characters are the lower case of one, and a host below it. -/
theorem vetoes_registry_wildcards_dotted :
    ['*', '.'] <+: "*.gouv.i\u0307".toList ∧ wildcardAllowed "*.gouv.i\u0307".toList = false ∧
      agrees "Shop.Gouv.İ" "*.GOUV.İ" = false ∧ agrees " *.Gouv.İ" "*.GOUV.İ" = true := by
  have hwild : ['*', '.'] <+: "*.gouv.i\u0307".toList := ⟨"gouv.i\u0307".toList, rfl⟩
  have hregistry : IsRegistryWildcard "*.gouv.i\u0307".toList :=
    ⟨"gouv.", by decide, "i\u0307".toList, rfl, rfl⟩
  have hlower : (normalizeName "*.GOUV.İ").toList = "*.gouv.i\u0307".toList := by decide +kernel
  have hcompared : IsRegistryWildcard (normalizeName "*.GOUV.İ").toList := hlower ▸ hregistry
  have hbelow := (vetoes_registry_wildcards.2 "Shop.Gouv.İ" "*.GOUV.İ" hcompared).2
  have hsame := (vetoes_registry_wildcards.2 " *.Gouv.İ" "*.GOUV.İ" hcompared).1
  exact ⟨hwild, (vetoes_registry_wildcards.1 _ hwild).mpr hregistry,
    hbelow "shop".toList (by decide +kernel) (by decide), hsame.mpr (by decide +kernel)⟩

end PeerCheck.Host
