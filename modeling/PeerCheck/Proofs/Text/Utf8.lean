import PeerCheck.Text.Utf8

/-!
# Texts in UTF-8

Each character of an ASCII text is encoded by one byte, and the bytes are decoded to the text
(`decode_encode`). No bytes are decoded to more characters than they are (`length_of_decode?`).
-/

namespace PeerCheck.Text.Utf8

variable {c : Char} {cs : List Char}

theorem utf8EncodeChar_of_ascii (h : c.toNat < 0x80) :
    String.utf8EncodeChar c = [c.toNat.toUInt8] := by
  have hsize : c.utf8Size = 1 := by
    rw [Char.utf8Size_eq_one_iff, UInt32.le_iff_toNat_le]
    exact Nat.le_of_lt_succ h
  rw [String.utf8EncodeChar_eq_singleton hsize]
  rfl

theorem begin_of_ascii (h : c.toNat < 0x80) (offset : Nat) :
    begin offset c.toNat.toUInt8 = ([.char c], none) := by
  have hn : c.toNat.toUInt8.toNat = c.toNat := Nat.mod_eq_of_lt (by omega)
  have hlt : c.toNat.toUInt8 < 0x80 := by
    rw [UInt8.lt_iff_toNat_lt, hn]
    exact h
  rw [begin, if_pos hlt, hn, Char.ofNat_toNat]

theorem piecesFrom_encode (h : ∀ c ∈ cs, c.toNat < 0x80) (offset : Nat) :
    piecesFrom offset none (encode cs) = cs.map .char := by
  induction cs generalizing offset with
  | nil => rfl
  | cons c cs ih =>
    have hc : c.toNat < 0x80 := h c List.mem_cons_self
    rw [encode, List.flatMap_cons, utf8EncodeChar_of_ascii hc]
    show piecesFrom offset none (c.toNat.toUInt8 :: encode cs) = _
    rw [piecesFrom, step, begin_of_ascii hc, List.map_cons]
    exact congrArg _ (ih (fun d hd => h d (List.mem_cons_of_mem c hd)) (offset + 1))

theorem ofPieces_map_char (cs : List Char) : ofPieces (cs.map .char) = .ok cs := by
  induction cs with
  | nil => rfl
  | cons c cs ih =>
    rw [List.map_cons, ofPieces, ih]
    rfl

theorem decode_encode (h : ∀ c ∈ cs, c.toNat < 0x80) : decode (encode cs) = .ok cs := by
  rw [decode, pieces, piecesFrom_encode h, ofPieces_map_char]

/-! ## Length -/

/-- How many pieces are still to come of a character under way. -/
def owed : Option Pending → Nat
  | none => 0
  | some _ => 1

theorem length_begin (offset : Nat) (b : UInt8) :
    (begin offset b).1.length + owed (begin offset b).2 = 1 := by
  unfold begin
  split
  · rfl
  · split <;> rfl

/-- A byte completes one piece at most, and one more if a character was under way. -/
theorem length_step (offset : Nat) (b : UInt8) (pending : Option Pending) :
    (step offset b pending).1.length + owed (step offset b pending).2 ≤ 1 + owed pending := by
  have hbegin := length_begin offset b
  unfold step
  cases pending with
  | none => exact Nat.le_of_eq hbegin
  | some p =>
    dsimp only
    split
    · split <;> simp [owed]
    · simp only [List.length_cons, owed] at hbegin ⊢
      omega

theorem length_piecesFrom (offset : Nat) (pending : Option Pending) (bs : List UInt8) :
    (piecesFrom offset pending bs).length ≤ bs.length + owed pending := by
  induction bs generalizing offset pending with
  | nil => cases pending <;> simp [piecesFrom, owed]
  | cons b bs ih =>
    have hstep := length_step offset b pending
    have hrest := ih (offset + 1) (step offset b pending).2
    rw [piecesFrom]
    simp only [List.length_append, List.length_cons]
    omega

theorem length_of_ofPieces {ps : List Piece} (h : ofPieces ps = .ok cs) :
    cs.length = ps.length := by
  induction ps generalizing cs with
  | nil =>
    cases h
    rfl
  | cons p ps ih =>
    cases p with
    | bad run => cases h
    | char c =>
      rw [ofPieces] at h
      cases hps : ofPieces ps with
      | error run => rw [hps] at h; cases h
      | ok ds =>
        rw [hps] at h
        cases h
        rw [List.length_cons, List.length_cons, ih hps]

theorem length_of_decode? {bytes : List UInt8} (h : decode? bytes = some cs) :
    cs.length ≤ bytes.length := by
  unfold decode? at h
  cases hd : decode bytes with
  | error run => rw [hd] at h; cases h
  | ok ds =>
    rw [hd] at h
    cases h
    rw [length_of_ofPieces hd]
    exact length_piecesFrom 0 none bytes

end PeerCheck.Text.Utf8
