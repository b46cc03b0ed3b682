import PeerCheck.Json.Reader
import PeerCheck.Json.Writer
import PeerCheck.Proofs.Text.Digit
import PeerCheck.Proofs.Text.Spelling

/-!
# Strings are read back

A character is written as itself, as a short escape, or as the escapes of its one or two code units,
and each of these is read as that character (`readString_escapedChar`). A whole string follows
character by character (`reads_stringText`).
-/

namespace PeerCheck.Json

open PeerCheck.Text

/-- A reader takes the value `a` from a text before `rest`, wherever the text begins. -/
def Reads {α : Type} (read : Cursor → Except ReadFault (α × Cursor)) (text : List Char) (a : α)
    (rest : List Char) : Prop :=
  ∀ offset, ∃ offset', read ⟨offset, text ++ rest⟩ = .ok (a, ⟨offset', rest⟩)

/-! ## Code units -/

theorem hexValue?_digitChar : ∀ d < 16, hexValue? (digitChar d) = some d := by
  decide

theorem hexQuad?_hexPadded {n : Nat} (h : n < 0x10000) (next : Char) (rest : List Char) :
    hexQuad? (hexPadded 4 n ++ next :: rest) = some (n, next :: rest) := by
  rw [hexPadded_four h]
  simp only [List.cons_append, List.nil_append, hexQuad?]
  rw [hexValue?_digitChar _ (by omega), hexValue?_digitChar _ (by omega),
    hexValue?_digitChar _ (by omega), hexValue?_digitChar _ (by omega)]
  have hn : ((n / 16 / 16 / 16 * 16 + n / 16 / 16 % 16) * 16 + n / 16 % 16) * 16 + n % 16 = n := by
    omega
  exact congrArg (fun m => some (m, next :: rest)) hn

theorem Char.valid_toNat (c : Char) : c.toNat < 0xD800 ∨ 0xDFFF < c.toNat ∧ c.toNat < 0x110000 :=
  c.valid

theorem not_surrogate (c : Char) :
    isHighSurrogate c.toNat = false ∧ isLowSurrogate c.toNat = false := by
  have hvalid := Char.valid_toNat c
  simp only [isHighSurrogate, isLowSurrogate, Bool.and_eq_false_iff, decide_eq_false_iff_not]
  omega

/-- The digits of a character's one code unit. -/
theorem unicodeEscape_unit {c : Char} (h : c.toNat < 0x10000) (offset : Nat) (next : Char)
    (rest : List Char) :
    unicodeEscape ⟨offset, hexPadded 4 c.toNat ++ next :: rest⟩ =
      .ok (.char c, ⟨offset + 4, next :: rest⟩) := by
  obtain ⟨hhigh, hlow⟩ := not_surrogate c
  simp only [unicodeEscape, hexQuad?_hexPadded h, unitPoint, hhigh, hlow, Cursor.advance]
  simp

/-- The digits of a pair of code units, with the lead of the second escape between them. -/
theorem unicodeEscape_pair {high low : Nat} (hhigh : isHighSurrogate high = true)
    (hlow : isLowSurrogate low = true) (offset : Nat) (next : Char) (rest : List Char) :
    unicodeEscape ⟨offset, hexPadded 4 high ++ (unitEscape low ++ next :: rest)⟩ =
      .ok (.char (joinSurrogates high low), ⟨offset + 10, next :: rest⟩) := by
  have hh : high < 0x10000 := by
    simp only [isHighSurrogate, Bool.and_eq_true, decide_eq_true_eq] at hhigh
    omega
  have hl : low < 0x10000 := by
    simp only [isLowSurrogate, Bool.and_eq_true, decide_eq_true_eq] at hlow
    omega
  simp only [unicodeEscape, unitEscape, List.cons_append, hexQuad?_hexPadded hh,
    hexQuad?_hexPadded hl, hhigh, hlow, Cursor.advance]
  simp

theorem isHighSurrogate_unit {n : Nat} (h : n < 0x110000) :
    isHighSurrogate (0xD800 + (n - 0x10000) / 0x400) = true := by
  simp only [isHighSurrogate, Bool.and_eq_true, decide_eq_true_eq]
  omega

theorem isLowSurrogate_unit (n : Nat) :
    isLowSurrogate (0xDC00 + (n - 0x10000) % 0x400) = true := by
  simp only [isLowSurrogate, Bool.and_eq_true, decide_eq_true_eq]
  omega

/-- The two code units of a character are joined to that character. -/
theorem joinSurrogates_units {c : Char} (h : 0x10000 ≤ c.toNat) :
    joinSurrogates (0xD800 + (c.toNat - 0x10000) / 0x400)
      (0xDC00 + (c.toNat - 0x10000) % 0x400) = c := by
  have hn : 0x10000 + (0xD800 + (c.toNat - 0x10000) / 0x400 - 0xD800) * 0x400 +
      (0xDC00 + (c.toNat - 0x10000) % 0x400 - 0xDC00) = c.toNat := by omega
  rw [joinSurrogates, hn, Char.ofNat_toNat]

/-! ## Characters -/

/-- A character has a short escape, or it is written as itself or by its code units. -/
theorem escapedChar_cases (c : Char) :
    (∃ e, e ≠ 'u' ∧ shortEscape? e = some c ∧ escapedChar c = ['\\', e]) ∨
      c ≠ '\x22' ∧ c ≠ '\\' ∧ escapedChar c =
        if 0x20 ≤ c.toNat ∧ c.toNat < 0x7F then [c]
        else if c.toNat < 0x10000 then unitEscape c.toNat
        else unitEscape (0xD800 + (c.toNat - 0x10000) / 0x400) ++
          unitEscape (0xDC00 + (c.toNat - 0x10000) % 0x400) := by
  by_cases hshort : c ∈ ['\x22', '\\', '\n', '\r', '\t', '\x0c', '\x08']
  · left
    simp only [List.mem_cons, List.not_mem_nil, or_false] at hshort
    obtain rfl | rfl | rfl | rfl | rfl | rfl | rfl := hshort
    · exact ⟨'\x22', by decide, rfl, rfl⟩
    · exact ⟨'\\', by decide, rfl, rfl⟩
    · exact ⟨'n', by decide, rfl, rfl⟩
    · exact ⟨'r', by decide, rfl, rfl⟩
    · exact ⟨'t', by decide, rfl, rfl⟩
    · exact ⟨'f', by decide, rfl, rfl⟩
    · exact ⟨'b', by decide, rfl, rfl⟩
  · right
    simp only [List.mem_cons, List.not_mem_nil, or_false, not_or] at hshort
    obtain ⟨hquote, hslash, h⟩ := hshort
    refine ⟨hquote, hslash, ?_⟩
    unfold escapedChar
    split <;> simp_all

theorem readString_short {c e : Char} (hu : e ≠ 'u') (h : shortEscape? e = some c)
    (start fuel : Nat) (got : List Point) (offset : Nat) (rest : List Char) :
    readString start (fuel + 1) got ⟨offset, '\\' :: e :: rest⟩ =
      readString start fuel (.char c :: got) ⟨offset + 2, rest⟩ := by
  rw [readString]
  split
  · next hr => cases hr
  · next hr => cases hr
  · next hr =>
    cases hr
    split
    · next hr => cases hr
    · next hr =>
      cases hr
      exact absurd rfl hu
    · next hr =>
      cases hr
      rw [h]
      rfl
  · next hslash hr =>
    cases hr
    exact absurd rfl hslash

theorem readString_plain {c : Char} (hquote : c ≠ '\x22') (hslash : c ≠ '\\')
    (hcontrol : 0x20 ≤ c.toNat) (start fuel : Nat) (got : List Point) (offset : Nat)
    (rest : List Char) :
    readString start (fuel + 1) got ⟨offset, c :: rest⟩ =
      readString start fuel (.char c :: got) ⟨offset + 1, rest⟩ := by
  rw [readString]
  split
  · next h => cases h
  · next h =>
    cases h
    exact absurd rfl hquote
  · next h =>
    cases h
    exact absurd rfl hslash
  · next h =>
    cases h
    rw [if_neg (by omega)]
    rfl

theorem readString_unicode {p : Point} {digits rest : List Char} {offset offset' : Nat}
    (h : unicodeEscape ⟨offset + 2, digits⟩ = .ok (p, ⟨offset', rest⟩)) (start fuel : Nat)
    (got : List Point) :
    readString start (fuel + 1) got ⟨offset, '\\' :: 'u' :: digits⟩ =
      readString start fuel (p :: got) ⟨offset', rest⟩ := by
  rw [readString]
  split
  · next hr => cases hr
  · next hr => cases hr
  · next hr =>
    cases hr
    split
    · next hr => cases hr
    · next hr =>
      cases hr
      dsimp only [Cursor.advance]
      rw [h]
    · next hu hr =>
      cases hr
      exact absurd rfl hu
  · next hslash hr =>
    cases hr
    exact absurd rfl hslash

/-- What is written of a character is read as that character, if the string goes on. -/
theorem readString_escapedChar (start fuel : Nat) (got : List Point) (offset : Nat) (c next : Char)
    (rest : List Char) :
    ∃ offset', readString start (fuel + 1) got ⟨offset, escapedChar c ++ next :: rest⟩ =
      readString start fuel (.char c :: got) ⟨offset', next :: rest⟩ := by
  obtain ⟨e, hu, he, hc⟩ | ⟨hquote, hslash, hc⟩ := escapedChar_cases c
  · rw [hc]
    exact ⟨_, readString_short hu he start fuel got offset _⟩
  rw [hc]
  split
  · next hn => exact ⟨_, readString_plain hquote hslash hn.1 start fuel got offset _⟩
  split
  · next hn =>
    rw [unitEscape, List.cons_append, List.cons_append]
    exact ⟨_, readString_unicode (unicodeEscape_unit hn _ next rest) start fuel got⟩
  · next hn =>
    have hmax : c.toNat < 0x110000 := by
      have hvalid := Char.valid_toNat c
      omega
    have h := unicodeEscape_pair (isHighSurrogate_unit hmax) (isLowSurrogate_unit c.toNat)
      (offset + 2) next rest
    rw [joinSurrogates_units (by omega)] at h
    rw [List.append_assoc, unitEscape, List.cons_append, List.cons_append]
    exact ⟨_, readString_unicode h start fuel got⟩

/-! ## Strings -/

theorem escapedChar_ne_nil (c : Char) : escapedChar c ≠ [] := by
  obtain ⟨e, -, -, hc⟩ | ⟨-, -, hc⟩ := escapedChar_cases c
  · rw [hc]
    exact List.cons_ne_nil _ _
  · rw [hc]
    split
    · exact List.cons_ne_nil _ _
    split
    · exact List.cons_ne_nil _ _
    · exact List.cons_ne_nil _ _

theorem length_le_length_escaped (cs : List Char) : cs.length ≤ (cs.flatMap escapedChar).length := by
  induction cs with
  | nil => exact Nat.le_refl 0
  | cons c cs ih =>
    have hc := List.length_pos_iff.mpr (escapedChar_ne_nil c)
    simp only [List.length_cons, List.flatMap_cons, List.length_append]
    omega

/-- The characters of a string are read up to the closing quote. -/
theorem readString_escaped (start : Nat) (cs : List Char) {fuel : Nat} (hfuel : cs.length < fuel)
    (got : List Point) (rest : List Char) (offset : Nat) :
    ∃ offset', readString start fuel got ⟨offset, cs.flatMap escapedChar ++ '\x22' :: rest⟩ =
      .ok (got.reverse ++ cs.map .char, ⟨offset', rest⟩) := by
  induction cs generalizing fuel got offset with
  | nil =>
    obtain ⟨fuel, rfl⟩ := Nat.exists_eq_add_one_of_ne_zero (Nat.ne_of_gt hfuel)
    rw [List.map_nil, List.append_nil]
    exact ⟨offset + 1, rfl⟩
  | cons c cs ih =>
    rw [List.length_cons] at hfuel
    obtain ⟨fuel, rfl⟩ := Nat.exists_eq_add_one_of_ne_zero (Nat.ne_zero_of_lt hfuel)
    -- the string goes on with another character or with its closing quote
    obtain ⟨next, tail, htail⟩ : ∃ next tail,
        cs.flatMap escapedChar ++ '\x22' :: rest = next :: tail :=
      List.exists_cons_of_ne_nil (by simp)
    obtain ⟨offset₁, hc⟩ := readString_escapedChar start fuel got offset c next tail
    obtain ⟨offset₂, hcs⟩ := ih (Nat.lt_of_succ_lt_succ hfuel) (.char c :: got) offset₁
    refine ⟨offset₂, ?_⟩
    rw [List.flatMap_cons, List.append_assoc, htail, hc, ← htail, hcs, List.reverse_cons,
      List.append_assoc, List.singleton_append, List.map_cons]

def stringTail (s : String) : List Char := s.toList.flatMap escapedChar ++ ['\x22']

theorem stringText_eq (s : String) : stringText s = '\x22' :: stringTail s := rfl

theorem reads_stringTail (s : String) (rest : List Char) :
    Reads readStringBody (stringTail s) (.sound s) rest := by
  intro offset
  have hfuel : s.toList.length < (stringTail s ++ rest).length + 1 := by
    have hs := length_le_length_escaped s.toList
    simp only [stringTail, List.length_append]
    omega
  obtain ⟨offset', h⟩ := readString_escaped (offset - 1) s.toList hfuel [] rest offset
  refine ⟨offset', ?_⟩
  rw [readStringBody, show stringTail s ++ rest = s.toList.flatMap escapedChar ++ '\x22' :: rest by
    simp [stringTail]] at *
  rw [h]
  exact congrArg (fun t => Except.ok (t, Cursor.mk offset' rest)) (Spelling.ofPoints_points s)

end PeerCheck.Json
