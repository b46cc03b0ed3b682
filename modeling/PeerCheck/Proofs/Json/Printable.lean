import PeerCheck.Proofs.Json.RoundTrip

/-!
# What is written is printable

On one line a value is written in printable ASCII, whatever its texts hold.
-/

namespace PeerCheck.Json

open PeerCheck.Text PeerCheck.Number

/-- The printable characters of ASCII, the blank among them. -/
def IsPrintable (c : Char) : Prop := 0x20 ≤ c.toNat ∧ c.toNat < 0x7F

instance (c : Char) : Decidable (IsPrintable c) :=
  inferInstanceAs (Decidable (0x20 ≤ c.toNat ∧ c.toNat < 0x7F))

theorem isPrintable_digitChar : ∀ d < 16, IsPrintable (digitChar d) := by decide

theorem isPrintable_of_mem_unitEscape {n : Nat} {c : Char} (h : c ∈ unitEscape n) :
    IsPrintable c := by
  rcases List.mem_cons.mp h with rfl | h
  · decide
  · rcases List.mem_cons.mp h with rfl | h
    · decide
    · obtain ⟨d, hd, rfl⟩ := mem_hexPadded h
      exact isPrintable_digitChar d hd

theorem isPrintable_of_shortEscape {e c : Char} (h : shortEscape? e = some c) : IsPrintable e := by
  unfold shortEscape? at h
  split at h <;> first | decide | cases h

theorem isPrintable_of_mem_escapedChar {c d : Char} (h : d ∈ escapedChar c) : IsPrintable d := by
  rcases escapedChar_cases c with ⟨e, -, hshort, he⟩ | ⟨-, -, he⟩
  · rw [he] at h
    rcases List.mem_cons.mp h with rfl | h
    · decide
    · rw [List.mem_singleton.mp h]
      exact isPrintable_of_shortEscape hshort
  · rw [he] at h
    split at h
    · next hp => rwa [List.mem_singleton.mp h]
    · split at h
      · exact isPrintable_of_mem_unitEscape h
      · rcases List.mem_append.mp h with h | h
        · exact isPrintable_of_mem_unitEscape h
        · exact isPrintable_of_mem_unitEscape h

theorem isPrintable_of_mem_stringText {s : String} {c : Char} (h : c ∈ stringText s) :
    IsPrintable c := by
  rw [stringText] at h
  rcases List.mem_cons.mp h with rfl | h
  · decide
  · rcases List.mem_append.mp h with h | h
    · obtain ⟨d, -, hd⟩ := List.mem_flatMap.mp h
      exact isPrintable_of_mem_escapedChar hd
    · rw [List.mem_singleton.mp h]
      decide

theorem isPrintable_of_mem_decimalInt {n : Int} {c : Char} (h : c ∈ decimalInt n) :
    IsPrintable c := by
  have hdigit : ∀ m : Nat, ∀ c ∈ decimal m, IsPrintable c := by
    intro m c hc
    obtain ⟨d, hd, rfl⟩ := mem_digits (by decide) hc
    exact isPrintable_digitChar d (by omega)
  unfold decimalInt at h
  split at h
  · rcases List.mem_cons.mp h with rfl | h
    · decide
    · exact hdigit _ _ h
  · exact hdigit _ _ h

theorem isPrintable_of_mem_enclose {level : Nat} {opening closing : Char}
    {parts : List (List Char)} (ho : IsPrintable opening) (hc : IsPrintable closing)
    (hparts : ∀ p ∈ parts, ∀ c ∈ p, IsPrintable c) {c : Char}
    (h : c ∈ Layout.oneLine.enclose level opening closing parts) : IsPrintable c := by
  unfold Layout.enclose at h
  split at h
  · rcases List.mem_cons.mp h with rfl | h
    · exact ho
    · rwa [List.mem_singleton.mp h]
  · simp only [Layout.lineBreak, List.nil_append, List.append_nil] at h
    rcases List.mem_cons.mp h with rfl | h
    · exact ho
    · rcases List.mem_append.mp h with h | h
      · rcases mem_joinWith h with h | ⟨p, hp, hcp⟩
        · simp only [Layout.separator, List.mem_cons, List.not_mem_nil, or_false] at h
          rcases h with rfl | rfl <;> decide
        · exact hparts p hp c hcp
      · rwa [List.mem_singleton.mp h]

theorem Value.Plain.isPrintable_write {v : Value} (h : v.Plain) :
    ∀ level, ∀ c ∈ v.write .oneLine level, IsPrintable c := by
  induction h with
  | null =>
    have hnull : ∀ c ∈ "null".toList, IsPrintable c := by simp [IsPrintable]
    exact fun _ => hnull
  | bool b =>
    have hbool : ∀ b : Bool, ∀ c ∈ (if b then "true" else "false").toList, IsPrintable c := by
      simp [IsPrintable]
    exact fun _ => hbool b
  | int n hn => exact fun _ _ => isPrintable_of_mem_decimalInt
  | str s => exact fun _ _ => isPrintable_of_mem_stringText
  | arr vs _ ih =>
    intro level c hc
    rw [Value.write] at hc
    refine isPrintable_of_mem_enclose (by decide) (by decide) (fun p hp => ?_) hc
    rw [writeItems_eq_map] at hp
    obtain ⟨v, hv, rfl⟩ := List.mem_map.mp hp
    exact ih v hv (level + 1)
  | obj fs _ _ ih =>
    intro level c hc
    rw [Value.write] at hc
    refine isPrintable_of_mem_enclose (by decide) (by decide) (fun p hp d hd => ?_) hc
    rw [writeFields_eq_map] at hp
    obtain ⟨f, hf, rfl⟩ := List.mem_map.mp hp
    rcases List.mem_append.mp hd with hd | hd
    · exact isPrintable_of_mem_stringText hd
    · rcases List.mem_cons.mp hd with rfl | hd
      · decide
      · rcases List.mem_cons.mp hd with rfl | hd
        · decide
        · exact ih f hf (level + 1) d hd

end PeerCheck.Json
