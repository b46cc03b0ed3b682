import PeerCheck.Proofs.Json.RoundTrip
import PeerCheck.Proofs.Run

/-!
# The room for nesting

Reading with some room for nesting is cut off, or it comes to what it comes to with any more room,
and then no value is deeper than the room (`parseWithin_settles`). So the text of a plain value is
nested too deep just where the value is deeper than the room (`tooDeep_write_iff`).
-/

namespace PeerCheck.Json

open PeerCheck.Text

variable {α β : Type} {P : α → Prop} {Q : β → Prop} {room fuel : Nat} {before : Fields} {v : Value}

/-- What is read with less room is cut off, or is the same as with more; then it has the property
`P`. -/
def Settles (P : α → Prop) (less more : Except ReadFault (α × Cursor)) : Prop :=
  (∃ nest, less = .error (.tooDeep nest)) ∨
    more = less ∧ ∀ a c, less = .ok (a, c) → P a

namespace Settles

variable {less more : Except ReadFault (α × Cursor)}

theorem same (h : ∀ a c, less = .ok (a, c) → P a) : Settles P less less := .inr ⟨rfl, h⟩

theorem ok {a : α} (h : P a) (c : Cursor) : Settles P (.ok (a, c)) (.ok (a, c)) := by
  refine same fun a' c' h' => ?_
  cases h'
  exact h

theorem error (e : ReadFault) : Settles P (.error e) (.error e) := by
  refine same fun a c h => ?_
  cases h

theorem fault (c : Cursor) (complaint : Complaint) :
    Settles P (c.fault complaint) (c.fault complaint) := error _

theorem of_depth_eq_zero {r : Except ReadFault (Value × Cursor)}
    (h : ∀ v c, r = .ok (v, c) → v.depth = 0) : Settles (·.depth ≤ room) r r :=
  same fun v c hr => Nat.le_trans (Nat.le_of_eq (h v c hr)) (Nat.zero_le room)

theorem map {f : α → β} (h : Settles P less more) (hf : ∀ a, P a → Q (f a)) :
    Settles Q (less.map fun (a, c) => (f a, c)) (more.map fun (a, c) => (f a, c)) := by
  rcases h with ⟨nest, rfl⟩ | ⟨rfl, hP⟩
  · exact .inl ⟨nest, rfl⟩
  · cases more with
    | error e => exact error _
    | ok p => exact ok (hf p.1 (hP p.1 p.2 rfl)) p.2

end Settles

/-! ## One step of each reader -/

def SettlesValue (room fuel : Nat) : Prop :=
  ∀ c, Settles (·.depth ≤ room) (readValue room fuel c) (readValue (room + 1) fuel c)

def SettlesItems (room fuel : Nat) : Prop :=
  ∀ c, Settles (Value.itemsDepth · ≤ room) (readItems room fuel c) (readItems (room + 1) fuel c)

def SettlesFields (room fuel : Nat) : Prop :=
  ∀ before c, Value.fieldsDepth before ≤ room →
    Settles (Value.fieldsDepth · ≤ room) (readFields room fuel before c)
      (readFields (room + 1) fuel before c)

theorem settlesItems_succ (hvalue : SettlesValue room fuel) (hitems : SettlesItems room fuel) :
    SettlesItems room (fuel + 1) := by
  intro c
  rw [readItems, readItems]
  rcases hvalue c with ⟨nest, hdeep⟩ | ⟨hsame, hdepth⟩
  · exact .inl ⟨nest, by rw [hdeep]⟩
  · rw [hsame]
    split
    · exact .error _
    · next v c hread =>
      have hv := hdepth v c hread
      dsimp only
      split
      · refine .ok ?_ _
        exact Nat.max_le.mpr ⟨hv, Nat.zero_le room⟩
      · exact (hitems _).map fun vs hvs => Nat.max_le.mpr ⟨hv, hvs⟩
      · exact .fault _ _

theorem fieldsDepth_put_le (hbefore : Value.fieldsDepth before ≤ room) (hv : v.depth ≤ room)
    (name : String) : Value.fieldsDepth (before.put name v) ≤ room := by
  induction before with
  | nil => exact Nat.max_le.mpr ⟨hv, Nat.zero_le room⟩
  | cons f fs ih =>
    obtain ⟨hf, hfs⟩ := Nat.max_le.mp hbefore
    rw [Fields.put]
    split
    · exact Nat.max_le.mpr ⟨hv, hfs⟩
    · exact Nat.max_le.mpr ⟨hf, ih hfs⟩

theorem settlesFields_succ (hvalue : SettlesValue room fuel) (hfields : SettlesFields room fuel) :
    SettlesFields room (fuel + 1) := by
  intro before c hbefore
  rw [readFields, readFields]
  split
  · split
    · exact .error _
    · dsimp only
      split
      · next rest _ =>
        rcases hvalue (Cursor.advance _ 1 rest).skipSpace with ⟨nest, hdeep⟩ | ⟨hsame, hdepth⟩
        · exact .inl ⟨nest, by rw [hdeep]⟩
        · rw [hsame]
          split
          · exact .error _
          · next v c hread =>
            have hput := fieldsDepth_put_le hbefore (hdepth v c hread)
            split
            · refine .ok ?_ _
              exact hput _
            · exact hfields _ _ (hput _)
            · exact .fault _ _
      · exact .fault _ _
  · exact .fault _ _

theorem depth_ofText (t : Spelling) : (Value.ofText t).depth = 0 := by
  cases t <;> rfl

theorem depth_of_takeConstant? {c c' : Cursor} (h : takeConstant? c = some (v, c')) :
    v.depth = 0 := by
  have hconstants : ∀ p ∈ constants, p.2.depth = 0 := by decide
  obtain ⟨⟨name, w⟩, hmem, hw⟩ := List.exists_of_findSome?_eq_some h
  obtain ⟨rest, -, hrest⟩ := Option.map_eq_some_iff.mp hw
  cases hrest
  exact hconstants _ hmem

theorem depth_of_readNumber {c c' : Cursor} (h : readNumber c = .ok (v, c')) : v.depth = 0 := by
  unfold readNumber at h
  split at h
  split at h
  · cases h
  · dsimp only at h
    split at h
    · split at h
      · cases h
      · cases h
        rfl
    · split at h
      · cases h
        rfl
      · cases h

theorem settlesValue_succ (hitems : ∀ room, SettlesItems room fuel)
    (hfields : ∀ room, SettlesFields room fuel) : SettlesValue room (fuel + 1) := by
  intro c
  rw [readValue, readValue]
  split
  · next rest _ =>
    refine .of_depth_eq_zero fun v c' hread => ?_
    obtain ⟨⟨t, c''⟩, -, h⟩ := exists_of_map_eq_ok hread
    cases h
    exact depth_ofText t
  · cases room with
    | zero => exact .inl ⟨_, rfl⟩
    | succ room =>
      dsimp only
      split
      · refine .ok ?_ _
        exact Nat.succ_le_succ (Nat.zero_le room)
      · exact (hitems room _).map fun vs hvs => Nat.succ_le_succ hvs
  · cases room with
    | zero => exact .inl ⟨_, rfl⟩
    | succ room =>
      dsimp only
      split
      · refine .ok ?_ _
        exact Nat.succ_le_succ (Nat.zero_le room)
      · exact (hfields room [] _ (Nat.zero_le room)).map fun fs hfs => Nat.succ_le_succ hfs
  · refine .of_depth_eq_zero fun v c' hread => ?_
    split at hread
    · next hconstant =>
      cases hread
      exact depth_of_takeConstant? hconstant
    · exact depth_of_readNumber hread

/-! ## Whole texts -/

theorem settles (fuel : Nat) :
    (∀ room, SettlesValue room fuel) ∧ (∀ room, SettlesItems room fuel) ∧
      ∀ room, SettlesFields room fuel := by
  induction fuel with
  | zero => exact ⟨fun _ c => .fault c _, fun _ c => .fault c _, fun _ _ c _ => .fault c _⟩
  | succ fuel ih =>
    obtain ⟨hvalue, hitems, hfields⟩ := ih
    exact ⟨fun _ => settlesValue_succ hitems hfields,
      fun room => settlesItems_succ (hvalue room) (hitems room),
      fun room => settlesFields_succ (hvalue room) (hfields room)⟩

theorem parseWithin_succ (room : Nat) (cs : List Char) :
    (∃ nest, parseWithin room cs = .error (.tooDeep nest)) ∨
      parseWithin (room + 1) cs = parseWithin room cs ∧
        ∀ v, parseWithin room cs = .ok v → v.depth ≤ room := by
  unfold parseWithin
  split
  · exact .inr ⟨rfl, nofun⟩
  · rcases (settles (2 * cs.length + 2)).1 room (Cursor.mk 0 cs).skipSpace with
      ⟨nest, hdeep⟩ | ⟨hsame, hdepth⟩
    · exact .inl ⟨nest, by rw [hdeep]⟩
    · rw [hsame]
      refine .inr ⟨rfl, fun v hv => ?_⟩
      split at hv
      · cases hv
      · next c hread =>
        dsimp only at hv
        split at hv
        · cases hv
          exact hdepth _ c hread
        · cases hv

/-- Within some room a text is nested too deep, or it is read as within any more room, and no value
is deeper than the room. -/
theorem parseWithin_settles {room room' : Nat} (h : room ≤ room') (cs : List Char) :
    (∃ nest, parseWithin room cs = .error (.tooDeep nest)) ∨
      parseWithin room' cs = parseWithin room cs ∧
        ∀ v, parseWithin room cs = .ok v → v.depth ≤ room := by
  induction h with
  | refl =>
    rcases parseWithin_succ room cs with hdeep | ⟨-, hdepth⟩
    · exact .inl hdeep
    · exact .inr ⟨rfl, hdepth⟩
  | step _ ih =>
    rcases ih with hdeep | ⟨hsame, hdepth⟩
    · exact .inl hdeep
    · rcases parseWithin_succ _ cs with hdeep | ⟨hmore, -⟩
      · rw [hsame] at hdeep
        exact .inl hdeep
      · exact .inr ⟨hmore.trans hsame, hdepth⟩

/-- The text of a plain value is nested too deep just where the value is deeper than the room. -/
theorem tooDeep_write_iff (h : v.Plain) (layout : Layout) (room : Nat) :
    (∃ nest, parseWithin room (v.write layout 0) = .error (.tooDeep nest)) ↔ room < v.depth := by
  constructor
  · rintro ⟨nest, hdeep⟩
    refine Nat.lt_of_not_le fun hle => ?_
    cases (parseWithin_write h layout hle).symm.trans hdeep
  · intro hlt
    rcases parseWithin_settles (Nat.le_of_lt hlt) (v.write layout 0) with hdeep | ⟨hsame, hdepth⟩
    · exact hdeep
    · have hread := hsame.symm.trans (parseWithin_write h layout (Nat.le_refl _))
      exact absurd (hdepth v hread) (Nat.not_le_of_lt hlt)

end PeerCheck.Json
