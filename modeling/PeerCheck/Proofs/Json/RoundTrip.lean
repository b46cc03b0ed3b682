import PeerCheck.Proofs.Json.Escape
import PeerCheck.Proofs.Text.Digit

/-!
# What is written is read back

The text of a plain value is read as that value, on one line as well as over several
(`parse_line`, `parse_pretty`), and within any room for nesting that is no less than its depth
(`parseWithin_write`). Plain are the values without fractions and surrogates, whose whole numbers
are short enough to be read and whose objects have no name twice.
-/

namespace PeerCheck.Json

open PeerCheck.Text PeerCheck.Number

namespace Value

/-- Nothing in the value is lost when it is written and read. -/
inductive Plain : Value → Prop
  | null : Plain .null
  | bool (b : Bool) : Plain (.bool b)
  | int (n : Int) (h : (decimal n.natAbs).length ≤ maxIntDigits) : Plain (.int n)
  | str (s : String) : Plain (.str s)
  | arr (vs : List Value) (h : ∀ v ∈ vs, Plain v) : Plain (.arr vs)
  | obj (fs : Fields) (hn : (fs.map Prod.fst).Nodup) (h : ∀ f ∈ fs, Plain f.2) : Plain (.obj fs)

mutual

/-- How many lists and objects lie inside each other. -/
def depth : Value → Nat
  | arr items => itemsDepth items + 1
  | obj fields => fieldsDepth fields + 1
  | _ => 0

def itemsDepth : List Value → Nat
  | [] => 0
  | v :: vs => max v.depth (itemsDepth vs)

def fieldsDepth : List (String × Value) → Nat
  | [] => 0
  | (_, v) :: fs => max v.depth (fieldsDepth fs)

end

theorem itemsDepth_le_iff {vs : List Value} {n : Nat} :
    itemsDepth vs ≤ n ↔ ∀ v ∈ vs, v.depth ≤ n := by
  induction vs with
  | nil => simp [itemsDepth]
  | cons v vs ih => rw [itemsDepth, Nat.max_le, ih, List.forall_mem_cons]

theorem fieldsDepth_le_iff {fs : Fields} {n : Nat} :
    fieldsDepth fs ≤ n ↔ ∀ f ∈ fs, f.2.depth ≤ n := by
  induction fs with
  | nil => simp [fieldsDepth]
  | cons f fs ih => rw [fieldsDepth, Nat.max_le, ih, List.forall_mem_cons]

end Value

/-! ## Blanks -/

theorem skipSpace_blanks {blanks : List Char} (hb : ∀ c ∈ blanks, Cursor.isSpace c = true)
    {c : Char} (hc : Cursor.isSpace c = false) (offset : Nat) (rest : List Char) :
    ∃ offset', (Cursor.mk offset (blanks ++ c :: rest)).skipSpace = ⟨offset', c :: rest⟩ := by
  have hdrop : (blanks ++ c :: rest).dropWhile Cursor.isSpace = c :: rest := by
    rw [List.dropWhile_append_of_pos hb, List.dropWhile_cons_of_neg (by simp [hc])]
  refine ⟨offset + ((blanks ++ c :: rest).length - (c :: rest).length), ?_⟩
  simp only [Cursor.skipSpace, hdrop]

theorem skipSpace_solid {c : Char} (hc : Cursor.isSpace c = false) (offset : Nat)
    (rest : List Char) : (Cursor.mk offset (c :: rest)).skipSpace = ⟨offset, c :: rest⟩ := by
  simp [Cursor.skipSpace, hc]

theorem isSpace_lineBreak (layout : Layout) (level : Nat) :
    ∀ c ∈ layout.lineBreak level, Cursor.isSpace c = true := by
  cases layout with
  | oneLine => nofun
  | indented =>
    intro c hc
    rcases List.mem_cons.mp hc with rfl | hc
    · rfl
    · rw [List.eq_of_mem_replicate hc]
      rfl

theorem exists_separator (layout : Layout) (level : Nat) :
    ∃ blanks, layout.separator level = ',' :: blanks ∧
      ∀ c ∈ blanks, Cursor.isSpace c = true := by
  cases layout with
  | oneLine => exact ⟨[' '], rfl, by simp [Cursor.isSpace]⟩
  | indented => exact ⟨_, rfl, isSpace_lineBreak .indented level⟩

/-! ## Whole numbers -/

theorem isDigit_digitChar : ∀ d < 10, (digitChar d).isDigit = true := by
  decide

theorem digitsValue_decimal (n : Nat) : digitsValue (decimal n) = n :=
  foldl_digits (by decide) (by decide) n

theorem isDigit_of_mem_decimal {n : Nat} {c : Char} (h : c ∈ decimal n) : c.isDigit = true := by
  obtain ⟨d, hd, rfl⟩ := mem_digits (by decide) h
  exact isDigit_digitChar d hd

/-- A number other than zero does not begin with a zero. -/
theorem exists_decimal (n : Nat) :
    ∃ d ds, decimal n = digitChar d :: ds ∧ d < 10 ∧ (d = 0 → n = 0) := by
  induction n using Nat.strongRecOn with
  | ind n ih =>
    by_cases h : n < 10
    · exact ⟨n, [], digits_of_lt h, h, id⟩
    · obtain ⟨d, ds, hds, hd, hzero⟩ := ih (n / 10) (by omega)
      refine ⟨d, ds ++ [digitChar (n % 10)], ?_, hd, fun h => by have := hzero h; omega⟩
      rw [decimal, digits_of_le (by decide) (by omega)]
      rw [decimal] at hds
      rw [hds, List.cons_append]

/-- No number goes on at the front of the text. -/
def Stops (rest : List Char) : Prop := ∀ c ∈ rest.head?, c ∈ [',', ']', '\x7d', '\n']

theorem stops_nil : Stops [] := nofun

theorem stops_cons {c : Char} (h : c ∈ [',', ']', '\x7d', '\n']) (rest : List Char) :
    Stops (c :: rest) := by
  rintro _ ⟨⟩
  exact h

theorem stops_lineBreak (layout : Layout) (level : Nat) {c : Char}
    (h : c ∈ [',', ']', '\x7d', '\n']) (rest : List Char) :
    Stops (layout.lineBreak level ++ c :: rest) := by
  cases layout with
  | oneLine => exact stops_cons h rest
  | indented => exact stops_cons (by decide) _

section Number

variable {rest : List Char} (h : Stops rest)

include h

theorem takeDigits_decimal (n : Nat) : takeDigits (decimal n ++ rest) = (decimal n, rest) := by
  have hrest : rest.takeWhile Char.isDigit = [] ∧ rest.dropWhile Char.isDigit = rest := by
    cases rest with
    | nil => exact ⟨rfl, rfl⟩
    | cons c rest =>
      have hc : c.isDigit = false := by
        have hc := h c rfl
        simp only [List.mem_cons, List.not_mem_nil, or_false] at hc
        obtain rfl | rfl | rfl | rfl := hc <;> rfl
      exact ⟨List.takeWhile_cons_of_neg (by simp [hc]), List.dropWhile_cons_of_neg (by simp [hc])⟩
  rw [takeDigits, List.takeWhile_append_of_pos fun c hc => isDigit_of_mem_decimal hc,
    List.dropWhile_append_of_pos fun c hc => isDigit_of_mem_decimal hc, hrest.1, hrest.2,
    List.append_nil]

theorem takeWhole_decimal (n : Nat) : takeWhole (decimal n ++ rest) = (decimal n, rest) := by
  by_cases hn : n = 0
  · subst hn
    rw [decimal, digits_of_lt (by decide)]
    rfl
  · obtain ⟨d, ds, hds, hd, hzero⟩ := exists_decimal n
    have hne : digitChar d ≠ '0' := by
      have hone : ∀ d < 10, d ≠ 0 → digitChar d ≠ '0' := by decide
      exact hone d hd fun h0 => hn (hzero h0)
    have htake := takeDigits_decimal h n
    rw [hds, List.cons_append] at htake ⊢
    rw [← htake, takeWhole]
    intro _ h0
    exact hne (List.cons.inj h0).1

theorem takeFraction_of_stops : takeFraction rest = ([], rest) := by
  unfold takeFraction
  split
  · have hc := h _ rfl
    simp at hc
  · rfl

theorem takeExponent_of_stops : takeExponent rest = ([], rest) := by
  cases rest with
  | nil => rfl
  | cons c rest =>
    have hc : ¬ (c = 'e' ∨ c = 'E') := by
      have hc := h c rfl
      simp only [List.mem_cons, List.not_mem_nil, or_false] at hc
      obtain rfl | rfl | rfl | rfl := hc <;> decide
    exact if_neg hc

theorem reads_int (n : Int) (hn : (decimal n.natAbs).length ≤ maxIntDigits) :
    Reads readNumber (decimalInt n) (.int n) rest := by
  intro offset
  refine ⟨offset + ((decimalInt n ++ rest).length - rest.length), ?_⟩
  obtain ⟨d, ds, hds, hd, -⟩ := exists_decimal n.natAbs
  have hwhole := takeWhole_decimal h n.natAbs
  have hvalue := digitsValue_decimal n.natAbs
  have hlong := Nat.not_lt.mpr hn
  rw [hds] at hwhole hvalue hlong
  unfold decimalInt
  rw [hds]
  split
  · have hneg : -((n.natAbs : Nat) : Int) = n := by omega
    simp only [readNumber, List.cons_append] at hwhole ⊢
    simp only [hwhole, takeFraction_of_stops h, takeExponent_of_stops h, if_neg hlong, hvalue, hneg]
    rfl
  · have hpos : ((n.natAbs : Nat) : Int) = n := by omega
    have hminus : digitChar d ≠ '-' := by
      have hall : ∀ d < 10, digitChar d ≠ '-' := by decide
      exact hall d hd
    simp only [readNumber, List.cons_append] at hwhole ⊢
    -- no sign is found, which decides the match inside
    have hsign : ∀ r, digitChar d :: (ds ++ rest) = '-' :: r → False :=
      fun r hr => hminus (List.cons.inj hr).1
    simp only [hwhole, takeFraction_of_stops h, takeExponent_of_stops h, if_neg hlong, hvalue, hpos]
    rfl

end Number

/-! ## The beginnings of values -/

/-- A value is read from its text, on whatever level it stands and whatever stops it. -/
def ReadsBack (v : Value) : Prop :=
  ∀ (layout : Layout) (level room fuel : Nat) (rest : List Char),
    v.depth ≤ room → (v.write layout level).length ≤ fuel → Stops rest →
      Reads (readValue room fuel) (v.write layout level) v rest

/-- A character that begins a value: no blank, no closing bracket and no mark of an encoding. -/
def isSolid (c : Char) : Bool := !Cursor.isSpace c && !([']', '\x7d', '\uFEFF'].contains c)

/-- A text that begins so. -/
def Opens (text : List Char) : Prop := ∃ c rest, text = c :: rest ∧ isSolid c = true

theorem isSpace_of_isSolid {c : Char} (h : isSolid c = true) : Cursor.isSpace c = false := by
  simp only [isSolid, Bool.and_eq_true, Bool.not_eq_true'] at h
  exact h.1

theorem ne_of_isSolid {c c' : Char} (h : isSolid c = true) (h' : isSolid c' = false) : c ≠ c' := by
  rintro rfl
  rw [h] at h'
  cases h'

theorem isSolid_digitChar {d : Nat} (h : d < 10) : isSolid (digitChar d) = true := by
  have hall : ∀ d < 10, isSolid (digitChar d) = true := by decide
  exact hall d h

theorem opens_enclose (layout : Layout) (level : Nat) {opening : Char} (closing : Char)
    (parts : List (List Char)) (h : isSolid opening = true) :
    Opens (layout.enclose level opening closing parts) := by
  unfold Layout.enclose
  split
  · exact ⟨_, _, rfl, h⟩
  · exact ⟨_, _, rfl, h⟩

theorem Opens.joinWith {text : List Char} (h : Opens text) (sep : List Char)
    (parts : List (List Char)) : Opens (joinWith sep (text :: parts)) := by
  obtain ⟨c, rest, rfl, hc⟩ := h
  cases parts with
  | nil => exact ⟨c, rest, rfl, hc⟩
  | cons p parts => exact ⟨c, _, rfl, hc⟩

theorem Opens.skipSpace {blanks text : List Char} (h : Opens text)
    (hb : ∀ c ∈ blanks, Cursor.isSpace c = true) (offset : Nat) (rest : List Char) :
    ∃ offset', (Cursor.mk offset (blanks ++ (text ++ rest))).skipSpace = ⟨offset', text ++ rest⟩ := by
  obtain ⟨c, cs, rfl, hc⟩ := h
  exact skipSpace_blanks hb (isSpace_of_isSolid hc) offset (cs ++ rest)

theorem Value.Plain.opens {v : Value} (h : v.Plain) (layout : Layout) (level : Nat) :
    Opens (v.write layout level) := by
  cases h with
  | null => exact ⟨_, _, rfl, rfl⟩
  | bool b => cases b <;> exact ⟨_, _, rfl, rfl⟩
  | int n _ =>
    obtain ⟨d, ds, hds, hd, -⟩ := exists_decimal n.natAbs
    rw [Value.write, decimalInt, hds]
    split
    · exact ⟨_, _, rfl, rfl⟩
    · exact ⟨_, _, rfl, isSolid_digitChar hd⟩
  | str s =>
    rw [Value.write]
    exact ⟨_, _, rfl, rfl⟩
  | arr vs _ =>
    rw [Value.write]
    exact opens_enclose _ _ _ _ rfl
  | obj fs _ _ =>
    rw [Value.write]
    exact opens_enclose _ _ _ _ rfl

/-! ## Scalars -/

theorem readValue_plain {c : Char} (hquote : c ≠ '\x22') (hbracket : c ≠ '[') (hbrace : c ≠ '\x7b')
    (room fuel offset : Nat) (rest : List Char) :
    readValue room (fuel + 1) ⟨offset, c :: rest⟩ =
      match takeConstant? ⟨offset, c :: rest⟩ with
      | some r => .ok r
      | none => readNumber ⟨offset, c :: rest⟩ := by
  rw [readValue]
  split
  · next h =>
    cases h
    exact absurd rfl hquote
  · next h =>
    cases h
    exact absurd rfl hbracket
  · next h =>
    cases h
    exact absurd rfl hbrace
  · rfl

theorem readsBack_null : ReadsBack .null := by
  intro layout level room fuel rest _ hfuel _ offset
  obtain ⟨fuel, rfl⟩ := Nat.exists_eq_add_one_of_ne_zero (Nat.ne_zero_of_lt hfuel)
  exact ⟨offset + 4, rfl⟩

theorem readsBack_bool (b : Bool) : ReadsBack (.bool b) := by
  intro layout level room fuel rest _ hfuel _ offset
  cases b with
  | false =>
    obtain ⟨fuel, rfl⟩ := Nat.exists_eq_add_one_of_ne_zero (Nat.ne_zero_of_lt hfuel)
    exact ⟨offset + 5, rfl⟩
  | true =>
    obtain ⟨fuel, rfl⟩ := Nat.exists_eq_add_one_of_ne_zero (Nat.ne_zero_of_lt hfuel)
    exact ⟨offset + 4, rfl⟩

theorem readsBack_str (s : String) : ReadsBack (.str s) := by
  intro layout level room fuel rest _ hfuel _ offset
  rw [Value.write] at hfuel ⊢
  obtain ⟨fuel, rfl⟩ := Nat.exists_eq_add_one_of_ne_zero (Nat.ne_zero_of_lt hfuel)
  obtain ⟨offset', h⟩ := reads_stringTail s rest (offset + 1)
  refine ⟨offset', ?_⟩
  rw [stringText_eq, List.cons_append, readValue]
  show (readStringBody ⟨offset + 1, stringTail s ++ rest⟩).map _ = _
  rw [h]
  rfl

theorem takeConstant?_digit {d : Nat} (h : d < 10) (offset : Nat) (rest : List Char) :
    takeConstant? ⟨offset, digitChar d :: rest⟩ = none ∧
      takeConstant? ⟨offset, '-' :: digitChar d :: rest⟩ = none := by
  match d, h with
  | 0, _ | 1, _ | 2, _ | 3, _ | 4, _ | 5, _ | 6, _ | 7, _ | 8, _ | 9, _ => exact ⟨rfl, rfl⟩

/-- A whole number begins like no string, no bracket and no constant. -/
theorem exists_decimalInt (n : Int) :
    ∃ c cs, decimalInt n = c :: cs ∧ c ≠ '\x22' ∧ c ≠ '[' ∧ c ≠ '\x7b' ∧
      ∀ offset rest, takeConstant? ⟨offset, c :: (cs ++ rest)⟩ = none := by
  obtain ⟨d, ds, hds, hd, -⟩ := exists_decimal n.natAbs
  unfold decimalInt
  rw [hds]
  split
  · exact ⟨_, _, rfl, by decide, by decide, by decide, fun offset rest =>
      (takeConstant?_digit hd offset _).2⟩
  · have hall : ∀ d < 10, digitChar d ≠ '\x22' ∧ digitChar d ≠ '[' ∧ digitChar d ≠ '\x7b' := by
      decide
    obtain ⟨hquote, hbracket, hbrace⟩ := hall d hd
    exact ⟨_, _, rfl, hquote, hbracket, hbrace, fun offset rest =>
      (takeConstant?_digit hd offset _).1⟩

theorem readsBack_int {n : Int} (hn : (decimal n.natAbs).length ≤ maxIntDigits) :
    ReadsBack (.int n) := by
  intro layout level room fuel rest _ hfuel hrest offset
  rw [Value.write] at hfuel ⊢
  obtain ⟨offset', h⟩ := reads_int hrest n hn offset
  obtain ⟨c, cs, hcs, hquote, hbracket, hbrace, hconstant⟩ := exists_decimalInt n
  rw [hcs] at hfuel h ⊢
  obtain ⟨fuel, rfl⟩ := Nat.exists_eq_add_one_of_ne_zero (Nat.ne_zero_of_lt hfuel)
  refine ⟨offset', ?_⟩
  rw [List.cons_append] at h ⊢
  rw [readValue_plain hquote hbracket hbrace, hconstant]
  exact h

/-! ## Lists -/

section Items

variable {room fuel offset : Nat} {c c' : Cursor} {v : Value} {rest : List Char}

theorem readItems_last (hv : readValue room fuel c = .ok (v, c'))
    (hs : c'.skipSpace = ⟨offset, ']' :: rest⟩) :
    readItems room (fuel + 1) c = .ok ([v], ⟨offset + 1, rest⟩) := by
  rw [readItems, hv]
  dsimp only
  rw [hs]
  rfl

theorem readItems_next (hv : readValue room fuel c = .ok (v, c'))
    (hs : c'.skipSpace = ⟨offset, ',' :: rest⟩) :
    readItems room (fuel + 1) c =
      (readItems room fuel (Cursor.mk (offset + 1) rest).skipSpace).map fun (vs, c) => (v :: vs, c) := by
  rw [readItems, hv]
  dsimp only
  rw [hs]
  rfl

theorem opens_items {layout : Layout} {level : Nat} (h : Opens (v.write layout level))
    (vs : List Value) :
    Opens (joinWith (layout.separator level) (Value.writeItems layout level (v :: vs))) :=
  h.joinWith _ _

/-- Items are read up to the closing bracket. -/
theorem reads_items (room fuel : Nat) {layout : Layout} {level : Nat} {blanks : List Char}
    (hb : ∀ c ∈ blanks, Cursor.isSpace c = true) (hstop : Stops (blanks ++ ']' :: rest))
    {vs : List Value} (hne : vs ≠ [])
    (hvs : ∀ v ∈ vs, ReadsBack v ∧ Opens (v.write layout level))
    (hroom : ∀ v ∈ vs, v.depth ≤ room)
    (hfuel : (joinWith (layout.separator level) (Value.writeItems layout level vs)).length < fuel) :
    Reads (readItems room fuel)
      (joinWith (layout.separator level) (Value.writeItems layout level vs) ++ (blanks ++ [']']))
      vs rest := by
  induction vs generalizing fuel with
  | nil => exact absurd rfl hne
  | cons v vs ih =>
    intro offset
    obtain ⟨fuel, rfl⟩ := Nat.exists_eq_add_one_of_ne_zero (Nat.ne_zero_of_lt hfuel)
    obtain ⟨hv, -⟩ := hvs v List.mem_cons_self
    have hdepth : v.depth ≤ room := hroom v List.mem_cons_self
    cases vs with
    | nil =>
      simp only [Value.writeItems, joinWith, List.append_assoc, List.singleton_append] at hfuel ⊢
      obtain ⟨offset₁, h₁⟩ :=
        hv layout level room fuel _ hdepth (Nat.le_of_lt_succ hfuel) hstop offset
      obtain ⟨offset₂, h₂⟩ := skipSpace_blanks hb (c := ']') rfl offset₁ rest
      exact ⟨_, readItems_last h₁ h₂⟩
    | cons w vs =>
      obtain ⟨gap, hgap, hblank⟩ := exists_separator layout level
      have hopens := opens_items (hvs w (by simp)).2 vs
      have hsplit : joinWith (layout.separator level) (Value.writeItems layout level (v :: w :: vs)) =
          v.write layout level ++ ',' :: (gap ++
            joinWith (layout.separator level) (Value.writeItems layout level (w :: vs))) := by
        simp [Value.writeItems, joinWith, hgap]
      have ih := ih fuel (List.cons_ne_nil w vs) (fun u hu => hvs u (List.mem_cons_of_mem v hu))
        fun u hu => hroom u (List.mem_cons_of_mem v hu)
      rw [hsplit] at hfuel ⊢
      generalize joinWith (layout.separator level) (Value.writeItems layout level (w :: vs)) = tail
        at hopens hfuel ih ⊢
      simp only [List.length_append, List.length_cons] at hfuel
      obtain ⟨offset₁, h₁⟩ := hv layout level room fuel
        (',' :: (gap ++ (tail ++ (blanks ++ [']'] ++ rest)))) hdepth (by omega)
        (stops_cons (by simp) _) offset
      obtain ⟨offset₂, h₂⟩ := hopens.skipSpace hblank (offset₁ + 1) (blanks ++ [']'] ++ rest)
      obtain ⟨offset₃, h₃⟩ := ih (by omega) offset₂
      refine ⟨offset₃, ?_⟩
      simp only [List.append_assoc, List.cons_append] at h₁ h₂ h₃ ⊢
      rw [readItems_next h₁ (skipSpace_solid rfl _ _), h₂, h₃]
      rfl

end Items

theorem readValue_list {text : List Char} (h : Opens text) {blanks : List Char}
    (hb : ∀ c ∈ blanks, Cursor.isSpace c = true) (room fuel offset : Nat) (rest : List Char) :
    ∃ offset', readValue (room + 1) (fuel + 1) ⟨offset, '[' :: (blanks ++ (text ++ rest))⟩ =
      (readItems room fuel ⟨offset', text ++ rest⟩).map fun (vs, c) => (.arr vs, c) := by
  obtain ⟨offset', hs⟩ := h.skipSpace hb (offset + 1) rest
  obtain ⟨c, cs, rfl, hc⟩ := h
  refine ⟨offset', ?_⟩
  rw [readValue]
  split
  · next hr => cases hr
  · next hr =>
    cases hr
    dsimp only [Cursor.advance]
    rw [hs]
    dsimp only [List.cons_append]
    split
    · next hr => exact absurd (List.cons.inj hr).1 (ne_of_isSolid hc rfl)
    · rfl
  · next hr => cases hr
  · next hbracket _ => exact absurd rfl (hbracket _)

theorem length_enclose (layout : Layout) (level : Nat) (opening closing : Char)
    (parts : List (List Char)) : (joinWith (layout.separator (level + 1)) parts).length + 1 <
      (layout.enclose level opening closing parts).length := by
  unfold Layout.enclose
  cases parts with
  | nil => simp [joinWith]
  | cons p parts =>
    rw [if_neg (by simp)]
    simp only [List.length_cons, List.length_append, List.length_nil]
    omega

theorem enclose_cons (layout : Layout) (level : Nat) (opening closing : Char) (part : List Char)
    (parts : List (List Char)) (rest : List Char) :
    layout.enclose level opening closing (part :: parts) ++ rest =
      opening :: (layout.lineBreak (level + 1) ++
        (joinWith (layout.separator (level + 1)) (part :: parts) ++
          (layout.lineBreak level ++ [closing]) ++ rest)) := by
  simp [Layout.enclose]

theorem readsBack_arr {vs : List Value} (hplain : ∀ v ∈ vs, v.Plain)
    (hvs : ∀ v ∈ vs, ReadsBack v) : ReadsBack (.arr vs) := by
  intro layout level room fuel rest hroom hfuel _ offset
  rw [Value.write] at hfuel ⊢
  rw [Value.depth] at hroom
  have hlen := length_enclose layout level '[' ']' (Value.writeItems layout (level + 1) vs)
  obtain ⟨fuel, rfl⟩ := Nat.exists_eq_add_one_of_ne_zero (n := fuel) (by omega)
  obtain ⟨room, rfl⟩ := Nat.exists_eq_add_one_of_ne_zero (n := room) (by omega)
  have hdepths := Value.itemsDepth_le_iff.mp (Nat.le_of_succ_le_succ hroom)
  cases vs with
  | nil => exact ⟨_, rfl⟩
  | cons v vs =>
    have hstop := stops_lineBreak layout level (c := ']') (by simp) rest
    have hitems := reads_items room fuel (isSpace_lineBreak layout level) hstop
      (List.cons_ne_nil v vs) (fun u hu => ⟨hvs u hu, (hplain u hu).opens layout (level + 1)⟩)
      hdepths (by omega)
    have hopens := opens_items ((hplain v List.mem_cons_self).opens layout (level + 1)) vs
    rw [Value.writeItems] at hitems hopens ⊢
    rw [enclose_cons, List.append_assoc (joinWith _ _)]
    obtain ⟨offset₁, h₁⟩ := readValue_list hopens (isSpace_lineBreak layout (level + 1)) room fuel
      offset (layout.lineBreak level ++ [']'] ++ rest)
    obtain ⟨offset₂, h₂⟩ := hitems offset₁
    rw [List.append_assoc] at h₂
    exact ⟨offset₂, by rw [h₁, h₂]; rfl⟩

/-! ## Objects -/

theorem put_of_notMem {fs : Fields} {name : String} (h : name ∉ fs.map Prod.fst) (v : Value) :
    fs.put name v = fs ++ [(name, v)] := by
  induction fs with
  | nil => rfl
  | cons f fs ih =>
    obtain ⟨n, w⟩ := f
    rw [List.map_cons, List.mem_cons, not_or] at h
    rw [Fields.put, if_neg (Ne.symm h.1), ih h.2, List.cons_append]

def afterField (room fuel : Nat) (fields : Fields) (c : Cursor) : Except ReadFault (Fields × Cursor) :=
  let c := c.skipSpace
  match c.rest with
  | '\x7d' :: rest => .ok (fields, c.advance 1 rest)
  | ',' :: rest => readFields room fuel fields (c.advance 1 rest).skipSpace
  | _ => c.fault .expectingComma

def afterName (room fuel : Nat) (before : Fields) (name : String) (c : Cursor) :
    Except ReadFault (Fields × Cursor) :=
  let c := c.skipSpace
  match c.rest with
  | ':' :: rest =>
    match readValue room fuel (c.advance 1 rest).skipSpace with
    | .error e => .error e
    | .ok (v, c) => afterField room fuel (before.put name v) c
  | _ => c.fault .expectingColon

theorem readFields_quote (room fuel : Nat) (before : Fields) (offset : Nat) (rest : List Char) :
    readFields room (fuel + 1) before ⟨offset, '\x22' :: rest⟩ =
      match readStringBody ⟨offset + 1, rest⟩ with
      | .error e => .error e
      | .ok (name, c) => afterName room fuel before name.shown c := rfl

theorem afterName_colon (room fuel : Nat) (before : Fields) (name : String) (offset : Nat)
    (rest : List Char) :
    afterName room fuel before name ⟨offset, ':' :: rest⟩ =
      match readValue room fuel (Cursor.mk (offset + 1) rest).skipSpace with
      | .error e => .error e
      | .ok (v, c) => afterField room fuel (before.put name v) c := by
  rw [afterName, skipSpace_solid rfl]
  rfl

theorem afterField_end {room fuel offset offset' : Nat} {text rest : List Char}
    (h : (Cursor.mk offset text).skipSpace = ⟨offset', '\x7d' :: rest⟩) (fields : Fields) :
    afterField room fuel fields ⟨offset, text⟩ = .ok (fields, ⟨offset' + 1, rest⟩) := by
  rw [afterField, h]
  rfl

theorem afterField_comma (room fuel : Nat) (fields : Fields) (offset : Nat) (rest : List Char) :
    afterField room fuel fields ⟨offset, ',' :: rest⟩ =
      readFields room fuel fields (Cursor.mk (offset + 1) rest).skipSpace := by
  rw [afterField, skipSpace_solid rfl]
  rfl

/-- A field is read with its name, and put after those before it. -/
theorem readFields_field {text : List Char} {room fuel : Nat} {v : Value} {more : List Char}
    (hv : Reads (readValue room fuel) text v more) (ho : Opens text) (before : Fields) (name : String)
    (offset : Nat) :
    ∃ offset', readFields room (fuel + 1) before
        ⟨offset, stringText name ++ ':' :: ' ' :: (text ++ more)⟩ =
      afterField room fuel (before.put name v) ⟨offset', more⟩ := by
  obtain ⟨offset₁, h₁⟩ := reads_stringTail name (':' :: ' ' :: (text ++ more)) (offset + 1)
  have hblank : ∀ c ∈ [' '], Cursor.isSpace c = true := by simp [Cursor.isSpace]
  obtain ⟨offset₂, h₂⟩ := ho.skipSpace hblank (offset₁ + 1) more
  obtain ⟨offset₃, h₃⟩ := hv offset₂
  refine ⟨offset₃, ?_⟩
  rw [stringText_eq, List.cons_append, readFields_quote, h₁]
  dsimp only [Spelling.shown]
  rw [afterName_colon, ← List.singleton_append, h₂, h₃]

theorem opens_fields (layout : Layout) (level : Nat) (f : String × Value) (fs : Fields) :
    Opens (joinWith (layout.separator level) (Value.writeFields layout level (f :: fs))) := by
  rw [Value.writeFields]
  exact Opens.joinWith ⟨'\x22', _, rfl, rfl⟩ _ _

/-- Fields are read up to the closing bracket. -/
theorem reads_fields (room fuel : Nat) (before : Fields) {layout : Layout} {level : Nat}
    {blanks rest : List Char}
    (hb : ∀ c ∈ blanks, Cursor.isSpace c = true) (hstop : Stops (blanks ++ '\x7d' :: rest))
    {fs : Fields} (hne : fs ≠ []) (hn : ((before ++ fs).map Prod.fst).Nodup)
    (hfs : ∀ f ∈ fs, ReadsBack f.2 ∧ Opens (f.2.write layout level))
    (hroom : ∀ f ∈ fs, f.2.depth ≤ room)
    (hfuel : (joinWith (layout.separator level) (Value.writeFields layout level fs)).length < fuel) :
    Reads (readFields room fuel before)
      (joinWith (layout.separator level) (Value.writeFields layout level fs) ++
        (blanks ++ ['\x7d'])) (before ++ fs) rest := by
  induction fs generalizing fuel before with
  | nil => exact absurd rfl hne
  | cons f fs ih =>
    intro offset
    obtain ⟨name, v⟩ := f
    obtain ⟨fuel, rfl⟩ := Nat.exists_eq_add_one_of_ne_zero (Nat.ne_zero_of_lt hfuel)
    obtain ⟨hv, ho⟩ : ReadsBack v ∧ Opens (v.write layout level) := hfs _ List.mem_cons_self
    have hdepth : v.depth ≤ room := hroom (name, v) List.mem_cons_self
    have hput : before.put name v = before ++ [(name, v)] := by
      refine put_of_notMem (fun hmem => ?_) v
      rw [List.map_append, List.nodup_append] at hn
      exact hn.2.2 name hmem name (by simp) rfl
    cases fs with
    | nil =>
      simp only [Value.writeFields, joinWith, List.append_assoc, List.cons_append, List.nil_append]
        at hfuel ⊢
      simp only [List.length_append, List.length_cons] at hfuel
      have hread := hv layout level room fuel _ hdepth (by omega) hstop
      obtain ⟨offset₁, h₁⟩ := readFields_field hread ho before name offset
      obtain ⟨offset₂, h₂⟩ := skipSpace_blanks hb (c := '\x7d') rfl offset₁ rest
      exact ⟨offset₂ + 1, by rw [h₁, afterField_end h₂, hput]⟩
    | cons g fs =>
      obtain ⟨gap, hgap, hblank⟩ := exists_separator layout level
      have hopens := opens_fields layout level g fs
      have hsplit : joinWith (layout.separator level)
            (Value.writeFields layout level ((name, v) :: g :: fs)) =
          stringText name ++ ':' :: ' ' :: (v.write layout level ++ ',' :: (gap ++
            joinWith (layout.separator level) (Value.writeFields layout level (g :: fs)))) := by
        simp [Value.writeFields, joinWith, hgap]
      have ih := ih fuel (before ++ [(name, v)]) (List.cons_ne_nil g fs) (by simpa using hn)
        (fun u hu => hfs u (List.mem_cons_of_mem _ hu))
        fun u hu => hroom u (List.mem_cons_of_mem _ hu)
      rw [hsplit] at hfuel ⊢
      generalize joinWith (layout.separator level) (Value.writeFields layout level (g :: fs)) = tail
        at hopens hfuel ih ⊢
      simp only [List.length_append, List.length_cons] at hfuel
      have hread := hv layout level room fuel
        (',' :: (gap ++ (tail ++ (blanks ++ ['\x7d'] ++ rest)))) hdepth (by omega)
        (stops_cons (by simp) _)
      obtain ⟨offset₁, h₁⟩ := readFields_field hread ho before name offset
      obtain ⟨offset₂, h₂⟩ := hopens.skipSpace hblank (offset₁ + 1) (blanks ++ ['\x7d'] ++ rest)
      obtain ⟨offset₃, h₃⟩ := ih (by omega) offset₂
      refine ⟨offset₃, ?_⟩
      simp only [List.append_assoc, List.cons_append, List.nil_append] at h₁ h₂ h₃ ⊢
      rw [h₁, afterField_comma, h₂, hput, h₃]

theorem readValue_object {text : List Char} (h : Opens text) {blanks : List Char}
    (hb : ∀ c ∈ blanks, Cursor.isSpace c = true) (room fuel offset : Nat) (rest : List Char) :
    ∃ offset', readValue (room + 1) (fuel + 1) ⟨offset, '\x7b' :: (blanks ++ (text ++ rest))⟩ =
      (readFields room fuel [] ⟨offset', text ++ rest⟩).map fun (fs, c) => (.obj fs, c) := by
  obtain ⟨offset', hs⟩ := h.skipSpace hb (offset + 1) rest
  obtain ⟨c, cs, rfl, hc⟩ := h
  refine ⟨offset', ?_⟩
  rw [readValue]
  split
  · next hr => cases hr
  · next hr => cases hr
  · next hr =>
    cases hr
    dsimp only [Cursor.advance]
    rw [hs]
    dsimp only [List.cons_append]
    split
    · next hr => exact absurd (List.cons.inj hr).1 (ne_of_isSolid hc rfl)
    · rfl
  · next hbrace => exact absurd rfl (hbrace _)

theorem readsBack_obj {fs : Fields} (hn : (fs.map Prod.fst).Nodup)
    (hplain : ∀ f ∈ fs, f.2.Plain) (hfs : ∀ f ∈ fs, ReadsBack f.2) : ReadsBack (.obj fs) := by
  intro layout level room fuel rest hroom hfuel _ offset
  rw [Value.write] at hfuel ⊢
  rw [Value.depth] at hroom
  have hlen := length_enclose layout level '\x7b' '\x7d' (Value.writeFields layout (level + 1) fs)
  obtain ⟨fuel, rfl⟩ := Nat.exists_eq_add_one_of_ne_zero (n := fuel) (by omega)
  obtain ⟨room, rfl⟩ := Nat.exists_eq_add_one_of_ne_zero (n := room) (by omega)
  have hdepths := Value.fieldsDepth_le_iff.mp (Nat.le_of_succ_le_succ hroom)
  cases fs with
  | nil => exact ⟨_, rfl⟩
  | cons f fs =>
    have hstop := stops_lineBreak layout level (c := '\x7d') (by simp) rest
    have hfields := reads_fields room fuel [] (isSpace_lineBreak layout level) hstop
      (List.cons_ne_nil f fs) hn (fun g hg => ⟨hfs g hg, (hplain g hg).opens layout (level + 1)⟩)
      hdepths (by omega)
    have hopens := opens_fields layout (level + 1) f fs
    rw [Value.writeFields] at hfields hopens ⊢
    rw [enclose_cons, List.append_assoc (joinWith _ _)]
    obtain ⟨offset₁, h₁⟩ := readValue_object hopens (isSpace_lineBreak layout (level + 1)) room
      fuel offset (layout.lineBreak level ++ ['\x7d'] ++ rest)
    obtain ⟨offset₂, h₂⟩ := hfields offset₁
    rw [List.append_assoc] at h₂
    exact ⟨offset₂, by rw [h₁, h₂]; rfl⟩

/-! ## Texts -/

theorem writeItems_eq_map (layout : Layout) (level : Nat) (vs : List Value) :
    Value.writeItems layout level vs = vs.map (·.write layout level) := by
  induction vs with
  | nil => rfl
  | cons v vs ih => rw [Value.writeItems, ih, List.map_cons]

theorem writeFields_eq_map (layout : Layout) (level : Nat) (fs : Fields) :
    Value.writeFields layout level fs =
      fs.map fun f => stringText f.1 ++ ':' :: ' ' :: f.2.write layout level := by
  induction fs with
  | nil => rfl
  | cons f fs ih => rw [Value.writeFields, ih, List.map_cons]

/-- No value is deeper than its text is long. -/
theorem Value.Plain.depth_le_length {v : Value} (h : v.Plain) (layout : Layout) (level : Nat) :
    v.depth ≤ (v.write layout level).length := by
  induction h generalizing level with
  | null | bool | int | str => exact Nat.zero_le _
  | arr vs _ ih =>
    rw [Value.depth, Value.write]
    have hlen := length_enclose layout level '[' ']' (Value.writeItems layout (level + 1) vs)
    have hitems : Value.itemsDepth vs ≤
        (joinWith (layout.separator (level + 1)) (Value.writeItems layout (level + 1) vs)).length := by
      refine Value.itemsDepth_le_iff.mpr fun v hv => Nat.le_trans (ih v hv (level + 1)) ?_
      rw [writeItems_eq_map]
      exact length_le_joinWith (List.mem_map_of_mem hv)
    omega
  | obj fs _ _ ih =>
    rw [Value.depth, Value.write]
    have hlen := length_enclose layout level '\x7b' '\x7d' (Value.writeFields layout (level + 1) fs)
    have hfields : Value.fieldsDepth fs ≤
        (joinWith (layout.separator (level + 1)) (Value.writeFields layout (level + 1) fs)).length := by
      refine Value.fieldsDepth_le_iff.mpr fun f hf => Nat.le_trans (ih f hf (level + 1)) ?_
      have hpart : stringText f.1 ++ ':' :: ' ' :: f.2.write layout (level + 1) ∈
          Value.writeFields layout (level + 1) fs := by
        rw [writeFields_eq_map]
        exact List.mem_map.mpr ⟨f, hf, rfl⟩
      have hlength : _ ≤ (joinWith (layout.separator (level + 1)) _).length :=
        length_le_joinWith hpart
      rw [List.length_append, List.length_cons, List.length_cons] at hlength
      omega
    omega

theorem Value.Plain.readsBack {v : Value} (h : v.Plain) : ReadsBack v := by
  induction h with
  | null => exact readsBack_null
  | bool b => exact readsBack_bool b
  | int n hn => exact readsBack_int hn
  | str s => exact readsBack_str s
  | arr vs h ih => exact readsBack_arr h ih
  | obj fs hn h ih => exact readsBack_obj hn h ih

theorem parseWithin_write {v : Value} (h : v.Plain) (layout : Layout) {room : Nat}
    (hroom : v.depth ≤ room) :
    parseWithin room (v.write layout 0) = .ok v := by
  obtain ⟨c, cs, hcs, hc⟩ := h.opens layout 0
  obtain ⟨offset, hread⟩ := h.readsBack layout 0 room (2 * (v.write layout 0).length + 2) []
    hroom (by omega) stops_nil 0
  rw [List.append_nil] at hread
  have hmark : (v.write layout 0).head? ≠ some '\uFEFF' := by
    rw [hcs]
    exact fun hm => ne_of_isSolid hc rfl (Option.some.inj hm)
  have hspace : (Cursor.mk 0 (v.write layout 0)).skipSpace = ⟨0, v.write layout 0⟩ := by
    rw [hcs]
    exact skipSpace_solid (isSpace_of_isSolid hc) 0 cs
  rw [parseWithin, if_neg hmark, hspace, hread]
  rfl

theorem parse_write {v : Value} (h : v.Plain) (layout : Layout) :
    parse (v.write layout 0) = .ok v :=
  parseWithin_write h layout (h.depth_le_length layout 0)

theorem parse_line {v : Value} (h : v.Plain) : parse v.line.toList = .ok v := by
  rw [Value.line, String.toList_ofList]
  exact parse_write h .oneLine

theorem parse_pretty {v : Value} (h : v.Plain) : parse v.pretty.toList = .ok v := by
  rw [Value.pretty, String.toList_ofList]
  exact parse_write h .indented

end PeerCheck.Json
