import PeerCheck.Log.Setup
import PeerCheck.Proofs.Files.Refusal

/-!
# What logging writes to the standard output

A record that is delivered adds to the standard output what the handlers show of it, a set-up at
most the record that begins it, and nothing else is written there. A set-up can fail in two ways:
the folder or the file cannot be made, or the path has a null.
-/

namespace PeerCheck.Log

open PeerCheck.Number

variable (clock : Binary64) (r : Record) (o : Outlets)

def Handler.shown : Handler → String
  | .file _ => ""
  | .console =>
    match recordLine clock r none with
    | .ok line => line ++ "\n"
    | .error _ => ""
  | .foreign => r.message ++ "\n"

theorem Handler.stdout_write (h : Handler) :
    (h.write clock r o).stdout = o.stdout ++ h.shown clock r := by
  cases h with
  | file s =>
    unfold write shown
    cases recordLine clock r none <;> exact String.append_empty.symm
  | console =>
    unfold write shown
    cases recordLine clock r none with
    | ok line => exact String.append_assoc
    | error _ => exact String.append_empty.symm
  | foreign => exact String.append_assoc

namespace Journal

variable (j : Journal)

def shown : String :=
  if j.lets r.level then String.join (j.handlers.map (·.shown clock r)) else ""

theorem stdout_writeAll (hs : List Handler) :
    (hs.foldl (fun o h => h.write clock r o) o).stdout =
      o.stdout ++ String.join (hs.map (·.shown clock r)) := by
  induction hs generalizing o with
  | nil => exact String.append_empty.symm
  | cons h hs ih =>
    rw [List.foldl_cons, ih, Handler.stdout_write, List.map_cons, String.join_cons,
      String.append_assoc]

theorem stdout_deliver : (j.deliver clock r o).stdout = o.stdout ++ j.shown clock r := by
  unfold deliver shown
  cases j.lets r.level with
  | false => exact String.append_empty.symm
  | true =>
    simp only [Bool.not_true, Bool.false_eq_true, if_false, if_true]
    split
    · next h =>
      rw [List.isEmpty_iff.mp h]
      unfold writeBare
      split <;> exact String.append_empty.symm
    · exact stdout_writeAll clock r o j.handlers

variable (folder : Text.Spelling) (options : Options)

theorem stdout_start :
    (j.start clock folder options o).2.2.stdout = o.stdout ∨
      (j.start clock folder options o).2.2.stdout =
        o.stdout ++ (j.start clock folder options o).2.1.shown clock
          (openingRecord (Path.below folder fileName) options.console) := by
  unfold start
  split
  · exact .inl rfl
  · split
    · exact .inl rfl
    · dsimp only
      split
      · exact .inl rfl
      · exact .inr (stdout_deliver ..)

end Journal

/-! ## Why a set-up fails -/

variable {fs fs' : Files} {path : Text.Spelling} {e : Fault}

/-- A fault of the file system, or of a path that cannot be handed to it. -/
def IsPathFault (e : Fault) : Prop := Fault.IsUnfit e ∨ ∃ f, e = .file f

theorem isPathFault_of_makeFolder (h : fs.makeFolder path = .error e) : IsPathFault e := by
  unfold Files.makeFolder at h
  split at h
  · next hunfit =>
    cases h
    exact .inl (Files.isUnfit_of_unfit? hunfit)
  · split at h
    · cases h
      exact .inr ⟨_, rfl⟩
    · split at h
      · cases h
        exact .inr ⟨_, rfl⟩
      · cases h

theorem isPathFault_of_makeFolderUnlessThere
    (h : fs.makeFolderUnlessThere path = (.error e, fs')) : IsPathFault e := by
  unfold Files.makeFolderUnlessThere at h
  split at h
  · cases h
  · next hm =>
    split at h
    · cases h
    · cases h
      exact isPathFault_of_makeFolder hm

theorem isPathFault_of_makeLast {name : Text.Spelling}
    (h : fs.makeLast path name = (.error e, fs')) : IsPathFault e := by
  unfold Files.makeLast at h
  split at h
  · cases h
  · exact isPathFault_of_makeFolderUnlessThere h

theorem isPathFault_of_makeFoldersUpTo (n : Nat)
    (h : Files.makeFoldersUpTo n fs path = (.error e, fs')) : IsPathFault e := by
  induction n generalizing fs path e fs' with
  | zero => exact isPathFault_of_makeFolderUnlessThere h
  | succ n ih =>
    unfold Files.makeFoldersUpTo at h
    simp only at h
    split at h
    · exact isPathFault_of_makeFolderUnlessThere h
    · split at h
      · next hrest =>
        split at h
        · exact isPathFault_of_makeLast h
        · cases h
          exact ih hrest
      · exact isPathFault_of_makeLast h

theorem isPathFault_of_locateFor (h : fs.locateFor path = .error e) : IsPathFault e := by
  unfold Files.locateFor at h
  split at h
  · next hunfit =>
    cases h
    exact .inl (Files.isUnfit_of_unfit? hunfit)
  · cases hl : fs.locate path with
    | ok loc =>
      rw [hl] at h
      cases h
    | error cause =>
      rw [hl] at h
      cases h
      exact .inr ⟨_, rfl⟩

theorem isPathFault_of_openToAppend (h : fs.openToAppend path = .error e) : IsPathFault e := by
  unfold Files.openToAppend at h
  cases hl : fs.locateFor path with
  | error e' =>
    rw [hl] at h
    cases h
    exact isPathFault_of_locateFor hl
  | ok loc =>
    rw [hl] at h
    simp only [bind, Except.bind] at h
    split at h
    · cases h
    · cases h
      exact .inr ⟨_, rfl⟩
    · cases h

/-- A set-up fails because logging cannot write, or because the path is unfit. -/
theorem fault_of_start {j : Journal} {clock : Binary64} {folder : Text.Spelling}
    {options : Options} {o : Outlets} (h : (j.start clock folder options o).1 = .error e) :
    Fault.IsUnfit e ∨ ∃ c, e = .logSetup c := by
  unfold Journal.start at h
  split at h
  · cases h
  · split at h
    · next hfolder =>
      cases h
      unfold openFolder at hfolder
      split at hfolder
      · cases hfolder
      · split at hfolder
        · cases hfolder
          exact .inr ⟨_, rfl⟩
        · next hnot =>
          obtain hunfit | ⟨f, rfl⟩ := isPathFault_of_makeFoldersUpTo _ hfolder
          · exact .inl hunfit
          · exact absurd hfolder (hnot _ _)
    · simp only at h
      split at h
      · next hfile =>
        cases h
        unfold openFile at hfile
        cases ho : Files.openToAppend _ _ with
        | ok p =>
          rw [ho] at hfile
          cases hfile
        | error e' =>
          rw [ho] at hfile
          cases hfile
          obtain (rfl | ⟨f, rfl⟩) | ⟨f, rfl⟩ := isPathFault_of_openToAppend ho
          · exact .inl (.inl rfl)
          · exact .inl (.inr ⟨f, rfl⟩)
          · exact .inr ⟨_, rfl⟩
      · cases h

end PeerCheck.Log
