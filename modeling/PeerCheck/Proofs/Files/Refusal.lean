import PeerCheck.Files.Tree
import PeerCheck.Proofs.Run

/-!
# Paths that are refused

Whether there is a file at a path is not known just where the path is refused
(`isFile_eq_error_iff`): for its own length, for the length of a name in it, or for a folder on its
way that may not be searched.
-/

namespace PeerCheck

/-- The fault of a path that cannot be handed to the file system: a null or a surrogate in it. -/
def Fault.IsUnfit (e : Fault) : Prop := e = .nullByte ∨ ∃ f, e = .unencodable f

namespace Files

open PeerCheck.Text

variable {fs : Files} {here : Location} {name : EntryName} {names : List EntryName}
  {cause : FileCause} {path : Spelling} {e : Fault}

theorem isUnfit_of_unfit? (h : unfit? path = some e) : e.IsUnfit := by
  unfold unfit? at h
  split at h
  · cases h
    exact .inr ⟨_, rfl⟩
  · split at h
    · cases h
      exact .inl rfl
    · cases h

/-- The path can be handed to the file system: its surrogates stand for bytes, and it has no null
character. -/
structure Fits (path : Spelling) : Prop where
  encodable : ∀ s, Point.lone s ∈ path.points → s.byte?.isSome
  solid : Point.char '\x00' ∉ path.points

theorem inName?_eq_none_iff (position : Nat) (ps : List Point) :
    EncodeFault.inName? position ps = none ↔ ∀ s, Point.lone s ∈ ps → s.byte?.isSome := by
  induction ps generalizing position with
  | nil => simp [EncodeFault.inName?]
  | cons p ps ih =>
    cases p with
    | char c => simp [EncodeFault.inName?, ih]
    | lone s => cases hs : s.byte? <;> simp [EncodeFault.inName?, hs, ih]

theorem unfit?_eq_none_iff : unfit? path = none ↔ Fits path := by
  have hnull : Path.hasNull path = false ↔ Point.char '\x00' ∉ path.points := by
    rw [Path.hasNull, List.contains_eq_mem, decide_eq_false_iff_not]
  unfold unfit?
  cases hname : EncodeFault.inName? 0 path.points with
  | some f =>
    refine ⟨nofun, fun h => ?_⟩
    rw [(inName?_eq_none_iff 0 _).mpr h.encodable] at hname
    cases hname
  | none =>
    have hencodable := (inName?_eq_none_iff 0 _).mp hname
    cases hasNull : Path.hasNull path with
    | true =>
      refine ⟨nofun, fun h => ?_⟩
      rw [hnull.mpr h.solid] at hasNull
      cases hasNull
    | false => exact ⟨fun _ => ⟨hencodable, hnull.mp hasNull⟩, fun _ => rfl⟩

/-- A location does not give what it has under a name: the folder may not be searched, or the name
has too many bytes. -/
inductive Blocks (fs : Files) (here : Location) (name : EntryName) : FileCause → Prop
  | sealed (hsealed : fs.entry? here = some .sealed) (hname : name ≠ []) :
    Blocks fs here name .denied
  | long (hfolder : fs.entry? here = some .folder) (hname : 255 < name.length) :
    Blocks fs here name .nameTooLong

/-- A path is refused as a whole or for a name on its way. -/
inductive Refuses (fs : Files) (path : Spelling) : FileCause → Prop
  | long (hlong : 4095 < (path.points.flatMap Point.bytes).length) : Refuses fs path .nameTooLong
  | name {before after : List EntryName} {name : EntryName} {there : Location} {cause : FileCause}
    (hshort : (path.points.flatMap Point.bytes).length ≤ 4095)
    (hnames : Path.names path = before ++ name :: after)
    (hbefore : fs.walk (start path) before = .ok there) (hblocks : fs.Blocks there name cause) :
    Refuses fs path cause

theorem Blocks.ne_nil (h : fs.Blocks here name cause) : name ≠ [] := by
  cases h with
  | sealed _ hname => exact hname
  | long _ hname =>
    rintro rfl
    cases hname

theorem enter_eq_error_iff (hc : cause.isAbsence = false) :
    fs.enter here name = .error cause ↔ fs.Blocks here name cause := by
  constructor
  · intro h
    unfold enter at h
    cases hentry : fs.entry? here with
    | none =>
      rw [hentry] at h
      cases h
      cases hc
    | some entry =>
      rw [hentry] at h
      cases entry with
      | file bytes =>
        cases h
        cases hc
      | sealed =>
        by_cases hname : name = []
        · simp [hname] at h
        · simp only [if_neg hname] at h
          cases h
          exact .sealed hentry hname
      | folder =>
        dsimp only at h
        split at h
        · cases h
        · split at h
          · cases h
          · split at h
            · next hlong =>
              cases h
              exact .long hentry hlong
            · cases h
  · rintro (⟨hsealed, hname⟩ | ⟨hfolder, hname⟩)
    · simp [enter, hsealed, hname]
    · have hne : ∀ short : EntryName, short.length ≤ 255 → name ≠ short := by
        rintro short hshort rfl
        omega
      have hlong : maxNameBytes < name.length := hname
      simp [enter, hfolder, hlong, hne [] (by decide), hne dot (by decide), hne dots (by decide)]

/-- The walk ends at the first name that is blocked. -/
theorem walk_eq_error_iff (hc : cause.isAbsence = false) :
    fs.walk here names = .error cause ↔ ∃ before name after there,
      names = before ++ name :: after ∧ fs.walk here before = .ok there ∧
        fs.Blocks there name cause := by
  constructor
  · intro h
    induction names generalizing here with
    | nil => cases h
    | cons name names ih =>
      rw [walk, List.foldlM_cons] at h
      rcases of_bind_eq_error h with h | ⟨next, hnext, h⟩
      · exact ⟨[], name, names, here, rfl, rfl, (enter_eq_error_iff hc).mp h⟩
      · obtain ⟨before, name', after, there, rfl, hbefore, hblocks⟩ := ih h
        refine ⟨name :: before, name', after, there, rfl, ?_, hblocks⟩
        rw [walk, List.foldlM_cons, hnext]
        exact hbefore
  · rintro ⟨before, name, after, there, rfl, hbefore, hblocks⟩
    rw [walk] at hbefore ⊢
    rw [List.foldlM_append, hbefore]
    show (name :: after).foldlM fs.enter there = _
    rw [List.foldlM_cons, (enter_eq_error_iff hc).mpr hblocks]
    rfl

theorem locate_eq_error_iff (hc : cause.isAbsence = false) :
    fs.locate path = .error cause ↔ fs.Refuses path cause := by
  unfold locate
  split
  · next hempty =>
    subst hempty
    constructor
    · intro h
      cases h
      cases hc
    · rintro (hlong | ⟨-, hnames, -, hblocks⟩)
      · cases hlong
      · have hnil : _ = [[]] := hnames.symm
        obtain ⟨-, rfl, -⟩ := List.append_eq_singleton_iff.mp hnil |>.resolve_right (by simp)
        exact absurd rfl hblocks.ne_nil
  · split
    · next hlong =>
      have hlong : 4095 < (path.points.flatMap Point.bytes).length := of_decide_eq_true hlong
      constructor
      · intro h
        cases h
        exact .long hlong
      · rintro (- | ⟨hshort, -, -, -⟩)
        · rfl
        · omega
    · next hshort =>
      have hshort : (path.points.flatMap Point.bytes).length ≤ 4095 :=
        Nat.not_lt.mp fun hlong => hshort (decide_eq_true hlong)
      rw [walk_eq_error_iff hc]
      constructor
      · rintro ⟨before, name, after, there, hnames, hbefore, hblocks⟩
        exact .name hshort hnames hbefore hblocks
      · rintro (hlong | ⟨-, hnames, hbefore, hblocks⟩)
        · omega
        · exact ⟨_, _, _, _, hnames, hbefore, hblocks⟩

theorem Refuses.not_isAbsence (h : fs.Refuses path cause) : cause.isAbsence = false := by
  rcases h with - | ⟨-, -, -, hblocks⟩
  · rfl
  · cases hblocks <;> rfl

/-- Where it is not known whether a file is there. -/
theorem isFile_eq_error_iff : fs.isFile path = .error e ↔
    Fits path ∧ ∃ cause, fs.Refuses path cause ∧ e = .file ⟨cause, path⟩ := by
  rw [← unfit?_eq_none_iff]
  unfold isFile locateFor
  cases hunfit : unfit? path with
  | some unfit =>
    rcases isUnfit_of_unfit? hunfit with rfl | ⟨f, rfl⟩ <;> simp
  | none =>
    cases hlocate : fs.locate path with
    | ok loc =>
      refine ⟨nofun, ?_⟩
      rintro ⟨-, cause, hcause, -⟩
      cases hlocate.symm.trans ((locate_eq_error_iff hcause.not_isAbsence).mpr hcause)
    | error cause =>
      have hsame : ∀ cause', fs.Refuses path cause' → cause' = cause := fun cause' hcause' =>
        Except.error.inj (((locate_eq_error_iff hcause'.not_isAbsence).mpr hcause').symm.trans hlocate)
      show (if cause.isAbsence then _ else _) = _ ↔ _
      cases hc : cause.isAbsence with
      | true =>
        refine ⟨nofun, ?_⟩
        rintro ⟨-, cause', hcause', -⟩
        obtain rfl := hsame cause' hcause'
        cases hc.symm.trans hcause'.not_isAbsence
      | false =>
        constructor
        · intro h
          exact ⟨rfl, cause, (locate_eq_error_iff hc).mp hlocate, (Except.error.inj h).symm⟩
        · rintro ⟨-, cause', hcause', rfl⟩
          obtain rfl := hsame cause' hcause'
          rfl

/-- What is read is a file that is there. -/
theorem isFile_of_read {bytes : List UInt8} (h : fs.read path = .ok bytes) :
    fs.isFile path = .ok true := by
  obtain ⟨loc, hloc, h⟩ := exists_of_bind_eq_ok h
  unfold isFile
  rw [hloc]
  split at h
  · next hentry => simp only [hentry]
  · cases h
  · cases h

end Files

end PeerCheck
