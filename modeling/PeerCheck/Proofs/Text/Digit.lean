import PeerCheck.Text.Digit
import PeerCheck.Text.Search

/-!
# The characters of written numbers

A number in a base holds digits of that base only (`mem_digits`), and their values in turn make up
the number (`foldl_digits`). Joined parts hold the characters of the parts and the separator's
(`mem_joinWith`), and are no shorter than each part (`length_le_joinWith`).
-/

namespace PeerCheck.Text

theorem mem_digitsBefore {base n : Nat} {after : List Char} {c : Char} (hb : 1 < base)
    (h : c ∈ digitsBefore base n after) : c ∈ after ∨ ∃ d < base, c = digitChar d := by
  fun_induction digitsBefore base n after with
  | case1 n after hn =>
    rcases List.mem_cons.1 h with rfl | h
    · exact .inr ⟨n, by omega, rfl⟩
    · exact .inl h
  | case2 n after hn ih =>
    rcases ih h with h | h
    · rcases List.mem_cons.1 h with rfl | h
      · exact .inr ⟨n % base, Nat.mod_lt _ (by omega), rfl⟩
      · exact .inl h
    · exact .inr h

theorem mem_digits {base n : Nat} {c : Char} (hb : 1 < base) (h : c ∈ digits base n) :
    ∃ d < base, c = digitChar d :=
  (mem_digitsBefore hb h).resolve_left (by simp)

theorem digitsBefore_eq_append (base n : Nat) (after : List Char) :
    digitsBefore base n after = digits base n ++ after := by
  unfold digits
  induction n using Nat.strongRecOn generalizing after with
  | ind n ih =>
    unfold digitsBefore
    split
    · rfl
    · next h =>
      have hlt : n / base < n := Nat.div_lt_self (by omega) (by omega)
      rw [ih _ hlt, ih _ hlt [digitChar (n % base)], List.append_assoc, List.singleton_append]

theorem digits_of_lt {base n : Nat} (h : n < base) : digits base n = [digitChar n] := by
  rw [digits, digitsBefore, dif_pos (.inr h)]

theorem digits_of_le {base n : Nat} (hb : 1 < base) (h : base ≤ n) :
    digits base n = digits base (n / base) ++ [digitChar (n % base)] := by
  rw [digits, digitsBefore, dif_neg (by omega), digitsBefore_eq_append]

/-- Read from the left, the values of the digits make up the number. -/
theorem foldl_digits {base : Nat} (hb : 1 < base) {value : Char → Nat}
    (hvalue : ∀ d < base, value (digitChar d) = d) (n : Nat) :
    (digits base n).foldl (fun m c => m * base + value c) 0 = n := by
  induction n using Nat.strongRecOn with
  | ind n ih =>
    by_cases h : n < base
    · rw [digits_of_lt h, List.foldl_cons, List.foldl_nil, hvalue n h, Nat.zero_mul, Nat.zero_add]
    · have hlt : n / base < n := Nat.div_lt_self (by omega) hb
      rw [digits_of_le hb (by omega), List.foldl_append, ih _ hlt, List.foldl_cons, List.foldl_nil,
        hvalue _ (Nat.mod_lt n (by omega)), Nat.div_add_mod']

/-- A 16-bit number has four hexadecimal digits. -/
theorem hexPadded_four {n : Nat} (h : n < 0x10000) :
    hexPadded 4 n = [digitChar (n / 16 / 16 / 16), digitChar (n / 16 / 16 % 16),
      digitChar (n / 16 % 16), digitChar (n % 16)] := by
  have hzero : digitChar 0 = '0' := by decide
  unfold hexPadded padLeft
  by_cases h1 : n < 16
  · rw [digits_of_lt h1]
    have : n / 16 = 0 := by omega
    simp [this, hzero, Nat.mod_eq_of_lt h1]
  · rw [digits_of_le (by decide) (by omega)]
    by_cases h2 : n / 16 < 16
    · rw [digits_of_lt h2]
      have : n / 16 / 16 = 0 := by omega
      simp [this, hzero, Nat.mod_eq_of_lt h2]
    · rw [digits_of_le (by decide) (by omega)]
      by_cases h3 : n / 16 / 16 < 16
      · rw [digits_of_lt h3]
        have : n / 16 / 16 / 16 = 0 := by omega
        simp [this, hzero, Nat.mod_eq_of_lt h3]
      · rw [digits_of_le (by decide) (by omega), digits_of_lt (by omega)]
        rfl

theorem mem_hexPadded {width n : Nat} {c : Char} (h : c ∈ hexPadded width n) :
    ∃ d < 16, c = digitChar d := by
  rw [hexPadded, padLeft, List.mem_append, List.mem_replicate] at h
  rcases h with ⟨-, rfl⟩ | h
  · exact ⟨0, by decide, rfl⟩
  · exact mem_digits (by decide) h

theorem mem_joinWith {α : Type} {sep : List α} {parts : List (List α)} {c : α}
    (h : c ∈ joinWith sep parts) : c ∈ sep ∨ ∃ p ∈ parts, c ∈ p := by
  fun_induction joinWith sep parts with
  | case1 => simp at h
  | case2 p => exact .inr ⟨p, by simp, h⟩
  | case3 p ps _ ih =>
    rcases List.mem_append.1 h with h | h
    · rcases List.mem_append.1 h with h | h
      · exact .inr ⟨p, by simp, h⟩
      · exact .inl h
    · exact (ih h).imp_right fun ⟨q, hq, hc⟩ => ⟨q, List.mem_cons_of_mem _ hq, hc⟩

theorem length_le_joinWith {α : Type} {sep part : List α} {parts : List (List α)}
    (h : part ∈ parts) : part.length ≤ (joinWith sep parts).length := by
  fun_induction joinWith sep parts with
  | case1 => cases h
  | case2 p => exact Nat.le_of_eq (congrArg List.length (List.mem_singleton.mp h))
  | case3 p ps _ ih =>
    rw [List.length_append, List.length_append]
    rcases List.mem_cons.mp h with rfl | h
    · omega
    · have := ih h
      omega

end PeerCheck.Text
