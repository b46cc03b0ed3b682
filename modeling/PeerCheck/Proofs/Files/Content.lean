import PeerCheck.Files.Tree

/-!
# What files hold

Making folders, or making sure that a file is there, changes the content of no file. Appending to a
file changes the content of that file only.
-/

namespace PeerCheck.Files

variable {fs fs' : Files} {loc other : Location} {path : Text.Spelling} {bytes : List UInt8}

theorem lookup_remove (fs : Files) (loc other : Location) :
    (fs.remove loc).entries.lookup other =
      if other = loc then none else fs.entries.lookup other := by
  unfold remove
  generalize fs.entries = entries
  induction entries with
  | nil => simp
  | cons p entries ih =>
    obtain ⟨name, e⟩ := p
    by_cases hn : name = loc
    · subst hn
      simp only [List.filter_cons, bne_self_eq_false, Bool.false_eq_true, if_false, ih]
      split
      · rfl
      · next hne => rw [List.lookup_cons, beq_eq_false_iff_ne.mpr hne]
    · have hkeep : (name != loc) = true := by simpa using hn
      simp only [List.filter_cons, hkeep, if_true, List.lookup_cons, ih]
      cases ho : other == name with
      | false => rfl
      | true =>
        rw [beq_iff_eq.mp ho]
        exact (if_neg hn).symm

theorem lookup_put (fs : Files) (loc : Location) (e : Entry) (other : Location) :
    (fs.put loc e).entries.lookup other =
      if other = loc then some e else fs.entries.lookup other := by
  show ((fs.remove loc).entries ++ [(loc, e)]).lookup other = _
  rw [List.lookup_append, lookup_remove]
  by_cases h : other = loc
  · simp [h]
  · simp [h, List.lookup_cons, beq_eq_false_iff_ne.mpr h]

theorem entry?_put (fs : Files) (loc : Location) (e : Entry) (other : Location) :
    Files.entry? (fs.put loc e) other =
      if other = loc ∧ isAbove other = false then some e else fs.entry? other := by
  unfold entry?
  rw [lookup_put]
  cases isAbove other <;> simp

theorem bytesAt_put (fs : Files) (loc : Location) (e : Entry) (other : Location) :
    (fs.put loc e).bytesAt other =
      if other = loc ∧ isAbove other = false then
        match e with
        | .file bytes => bytes
        | _ => []
      else fs.bytesAt other := by
  unfold bytesAt
  rw [entry?_put]
  by_cases h : other = loc ∧ isAbove other = false
  · rw [if_pos h, if_pos h]
    cases e <;> rfl
  · rw [if_neg h, if_neg h]

/-- A file that can be there holds what it held and what was appended. -/
theorem bytesAt_append (h : isAbove loc = false) (bytes : List UInt8) (other : Location) :
    (fs.append loc bytes).bytesAt other =
      fs.bytesAt other ++ if other = loc then bytes else [] := by
  rw [append, bytesAt_put]
  by_cases ho : other = loc
  · subst ho
    rw [if_pos ⟨rfl, h⟩, if_pos rfl]
  · rw [if_neg fun h => ho h.1, if_neg ho, List.append_nil]

/-! ## What is made leaves the content -/

def Keeps (fs fs' : Files) : Prop := ∀ loc, fs'.bytesAt loc = fs.bytesAt loc

theorem Keeps.refl (fs : Files) : fs.Keeps fs := fun _ => rfl

theorem Keeps.trans {fs'' : Files} (h : fs.Keeps fs') (h' : fs'.Keeps fs'') : fs.Keeps fs'' :=
  fun loc => (h' loc).trans (h loc)

/-- Nothing is lost where nothing was and nothing is put in. -/
theorem keeps_put {e : Entry} (h : fs.entry? loc = none) (he : e = .folder ∨ e = .file []) :
    fs.Keeps (fs.put loc e) := by
  intro other
  rw [bytesAt_put]
  split
  · next ho =>
    rw [bytesAt, ho.1, h]
    rcases he with rfl | rfl <;> rfl
  · rfl

theorem keeps_of_makeFolder (h : fs.makeFolder path = .ok fs') : fs.Keeps fs' := by
  unfold makeFolder at h
  split at h
  · cases h
  · split at h
    · cases h
    · split at h
      · cases h
      · next hnone =>
        cases h
        exact keeps_put hnone (.inl rfl)

theorem keeps_makeFolderUnlessThere (fs : Files) (path : Text.Spelling) :
    fs.Keeps (fs.makeFolderUnlessThere path).2 := by
  unfold makeFolderUnlessThere
  split
  · next h => exact keeps_of_makeFolder h
  · split <;> exact .refl fs

theorem keeps_makeLast (fs : Files) (path name : Text.Spelling) :
    fs.Keeps (fs.makeLast path name).2 := by
  unfold makeLast
  split
  · exact .refl fs
  · exact keeps_makeFolderUnlessThere fs path

theorem keeps_makeFoldersUpTo (n : Nat) (fs : Files) (path : Text.Spelling) :
    fs.Keeps (makeFoldersUpTo n fs path).2 := by
  induction n generalizing fs path with
  | zero => exact keeps_makeFolderUnlessThere fs path
  | succ n ih =>
    unfold makeFoldersUpTo
    simp only
    split
    · exact keeps_makeFolderUnlessThere fs path
    · have hhead := ih fs (Path.folderAndName path).1
      rcases hrest : makeFoldersUpTo n fs (Path.folderAndName path).1 with ⟨_ | _, fs'⟩
      · rw [hrest] at hhead
        dsimp only
        split
        · exact hhead.trans (keeps_makeLast fs' path _)
        · exact hhead
      · rw [hrest] at hhead
        exact hhead.trans (keeps_makeLast fs' path _)

theorem keeps_makeFolders (fs : Files) (path : Text.Spelling) : fs.Keeps (fs.makeFolders path).2 :=
  keeps_makeFoldersUpTo _ fs path

/-- A file that can be appended to is no folder, and was not changed. -/
theorem keeps_of_openToAppend (h : fs.openToAppend path = .ok (loc, fs')) :
    fs.Keeps fs' ∧ isAbove loc = false := by
  unfold openToAppend at h
  cases hl : fs.locateFor path with
  | error e =>
    rw [hl] at h
    cases h
  | ok found =>
    rw [hl] at h
    simp only [bind, Except.bind] at h
    have habove : fs.entry? found ≠ some .folder → isAbove found = false := by
      intro hne
      cases ha : isAbove found with
      | false => rfl
      | true => exact absurd (if_pos ha) hne
    split at h
    · next hfile =>
      cases h
      exact ⟨.refl fs, habove (by rw [hfile]; nofun)⟩
    · cases h
    · next hnone =>
      cases h
      exact ⟨keeps_put hnone (.inr rfl), habove (by rw [hnone]; nofun)⟩

end PeerCheck.Files
