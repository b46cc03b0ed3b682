import PeerCheck.Log.Setup

/-!
# Periods of logging

Logging is set up, used and shut down in any order. A period is open from a set-up that takes effect
until logging is shut down, and the journal agrees with it at every time: its handlers are those of
the period, each attached once, and outside of periods it has none of its own (`run_agrees`).
-/

namespace PeerCheck.Log

open PeerCheck.Number

/-- What is done with logging: it is set up in a folder, shut down, or given a draft to log. -/
inductive Step
  | start (clock : Binary64) (folder : Text.Spelling) (options : Options)
  | shutDown
  | log (clock : Binary64) (d : Draft)

/-- The journal and what records are written to. -/
structure Desk where
  journal : Journal
  out : Outlets

namespace Desk

def apply (s : Desk) : Step → Desk
  | .start clock folder options =>
    let (_, j, o) := s.journal.start clock folder options s.out
    ⟨j, o⟩
  | .shutDown => { s with journal := s.journal.shutDown }
  | .log clock d => { s with out := s.journal.deliverDraft clock d s.out }

def run (s : Desk) (steps : List Step) : Desk := steps.foldl apply s

end Desk

/-- Where the records of a period go: to a file, and to the console if that was asked for. -/
structure Period where
  sink : Sink
  console : Bool
  deriving DecidableEq

/-! ## Set-ups -/

/-- Makes the folder and the log file in it: the location of the file, and the files after that. -/
def openLog (folder : Text.Spelling) (fs : Files) : Except Fault Location × Files :=
  match openFolder folder fs with
  | (.error e, fs) => (.error e, fs)
  | (.ok (), fs) =>
    match openFile (Path.below folder fileName) fs with
    | .error e => (.error e, fs)
    | .ok (loc, fs) => (.ok loc, fs)

/-- The period that a set-up begins where none is open, if it succeeds. -/
def beginning (folder : Text.Spelling) (options : Options) (fs : Files) : Option Period :=
  match (openLog folder fs).1 with
  | .ok loc => some ⟨⟨loc, options.maxBytes, options.backups⟩, options.console⟩
  | .error _ => none

namespace Journal

variable {j : Journal} (clock : Binary64) (folder : Text.Spelling) (options : Options) (o : Outlets)

/-- A set-up while logging is set up does nothing. -/
theorem start_of_initialized (h : j.initialized = true) :
    j.start clock folder options o = (.ok (), j, o) := by
  rw [start, if_pos h]

theorem start_of_fresh (h : j.initialized = false) :
    j.start clock folder options o = match openLog folder o.files with
      | (.error e, fs) => (.error e, j, { o with files := fs })
      | (.ok loc, fs) =>
        let next := attach ⟨loc, options.maxBytes, options.backups⟩ options.console
        (.ok (), next, next.deliver clock
          (openingRecord (Path.below folder fileName) options.console) { o with files := fs }) := by
  unfold start openLog
  rw [h]
  simp only [Bool.false_eq_true, if_false]
  rcases openFolder folder o.files with ⟨_ | _, fs⟩
  · rfl
  · dsimp only
    cases openFile (Path.below folder fileName) fs <;> rfl

/-- A set-up that fails leaves the journal as it was. -/
theorem journal_of_start_error {e : Fault}
    (h : (j.start clock folder options o).1 = .error e) :
    (j.start clock folder options o).2.1 = j := by
  cases hi : j.initialized with
  | true => rw [start_of_initialized clock folder options o hi]
  | false =>
    rw [start_of_fresh clock folder options o hi] at h ⊢
    revert h
    rcases openLog folder o.files with ⟨_ | _, fs⟩
    · exact fun _ => rfl
    · exact nofun

end Journal

theorem Desk.apply_start_of_initialized {s : Desk} (h : s.journal.initialized = true)
    (clock : Binary64) (folder : Text.Spelling) (options : Options) :
    s.apply (.start clock folder options) = s := by
  have hstart := Journal.start_of_initialized clock folder options s.out h
  simp only [apply, hstart]

/-! ## What is open -/

def Step.next (fs : Files) (current : Option Period) : Step → Option Period
  | .start _ folder options =>
    match current with
    | some p => some p
    | none => beginning folder options fs
  | .shutDown => none
  | .log .. => current

/-- The period that is open after some steps. -/
def periodAfter (s : Desk) (current : Option Period) : List Step → Option Period
  | [] => current
  | st :: steps => periodAfter (s.apply st) (st.next s.out.files current) steps

namespace Journal

def unset (foreign : Nat) (level : Level) : Journal :=
  { handlers := List.replicate foreign .foreign, level := level }

/-- The journal is as the open period left it, or has nothing of its own where none is open. -/
def Follows (j : Journal) : Option Period → Prop
  | some p => j = attach p.sink p.console
  | none => j.initialized = false ∧ j.file = none ∧ j.console = false ∧
    ∀ h ∈ j.handlers, h = .foreign

variable {j : Journal} {current : Option Period} {p : Period}

theorem follows_unset (foreign : Nat) (level : Level) : (unset foreign level).Follows none :=
  ⟨rfl, rfl, rfl, fun _ => List.eq_of_mem_replicate⟩

/-- Shutting down takes off all handlers of the period. -/
theorem shutDown_attach (s : Sink) (console : Bool) :
    (attach s console).shutDown = { level := .info } := by
  cases console <;> simp [attach, shutDown]

theorem Follows.shutDown (h : j.Follows current) : j.shutDown.Follows none := by
  cases current with
  | some p =>
    rw [show j = _ from h, shutDown_attach]
    exact ⟨rfl, rfl, rfl, nofun⟩
  | none =>
    obtain ⟨-, hfile, hconsole, hforeign⟩ := h
    refine ⟨rfl, rfl, rfl, ?_⟩
    rw [Journal.shutDown, hfile, hconsole]
    exact hforeign

/-- What one step keeps. -/
theorem Follows.apply {s : Desk} (h : s.journal.Follows current) (st : Step) :
    (s.apply st).journal.Follows (st.next s.out.files current) := by
  cases st with
  | shutDown => exact h.shutDown
  | log clock d => exact h
  | start clock folder options =>
    cases current with
    | some p =>
      have hi : s.journal.initialized = true := by rw [show s.journal = _ from h]; rfl
      rw [Desk.apply_start_of_initialized hi]
      exact h
    | none =>
      simp only [Desk.apply, start_of_fresh clock folder options s.out h.1, Step.next, beginning]
      rcases openLog folder s.out.files with ⟨_ | _, fs⟩
      · exact h
      · rfl

theorem Follows.run {s : Desk} (h : s.journal.Follows current) (steps : List Step) :
    (s.run steps).journal.Follows (periodAfter s current steps) := by
  induction steps generalizing s current with
  | nil => exact h
  | cons st steps ih => exact ih (h.apply st)

/-! ## The books -/

/-- The books of the journal agree with the open period: what is recorded of it is attached once,
and nothing else of the journal's own is attached. -/
structure Agrees (j : Journal) (current : Option Period) : Prop where
  initialized_iff : j.initialized = true ↔ j.file.isSome = true
  file_eq : j.file = current.map Period.sink
  console_iff : j.console = true ↔ ∃ p, current = some p ∧ p.console = true
  file_once : ∀ s, j.file = some s → j.handlers.count (.file s) = 1
  console_once : j.console = true → j.handlers.count .console = 1
  file_recorded : ∀ s, .file s ∈ j.handlers → j.file = some s
  console_recorded : .console ∈ j.handlers → j.console = true

theorem agrees_attach (p : Period) : (attach p.sink p.console).Agrees (some p) where
  initialized_iff := iff_of_true rfl rfl
  file_eq := rfl
  console_iff := by simp [attach]
  file_once s h := by
    obtain rfl := Option.some.inj h
    cases hc : p.console <;> simp [attach]
  console_once h := by
    have hc : p.console = true := h
    simp [attach, hc]
  file_recorded s h := by
    cases hc : p.console <;> simp_all [attach]
  console_recorded h := by
    cases hc : p.console <;> simp_all [attach]

theorem Follows.agrees (h : j.Follows current) : j.Agrees current := by
  cases current with
  | some p =>
    rw [show j = _ from h]
    exact agrees_attach p
  | none =>
    obtain ⟨hinit, hfile, hconsole, hforeign⟩ := h
    exact
      { initialized_iff := by simp [hinit, hfile]
        file_eq := hfile
        console_iff := by simp [hconsole]
        file_once := by simp [hfile]
        console_once := by simp [hconsole]
        file_recorded := fun s hs => nomatch hforeign _ hs
        console_recorded := fun hs => nomatch hforeign _ hs }

end Journal

/-- However logging is set up, used and shut down, the journal's books agree with the period that is
open. Shutting down then leaves only foreign handlers; a further set-up while a period is open
changes nothing at all; and one that fails leaves the journal as it was. -/
theorem run_agrees (foreign : Nat) (level : Level) (o : Outlets) (steps : List Step) :
    let first : Desk := ⟨.unset foreign level, o⟩
    let last := first.run steps
    let j := last.journal
    j.Agrees (periodAfter first none steps) ∧
      (j.shutDown.Agrees none ∧ ∀ h ∈ j.shutDown.handlers, h = .foreign) ∧
      (j.initialized = true → ∀ clock folder options,
        last.apply (.start clock folder options) = last ∧
          (j.start clock folder options last.out).1 = .ok ()) ∧
      ∀ clock folder options e, (j.start clock folder options last.out).1 = .error e →
        (last.apply (.start clock folder options)).journal = j := by
  intro first last j
  have h : j.Follows (periodAfter first none steps) :=
    (Journal.follows_unset foreign level).run steps
  refine ⟨h.agrees, ⟨h.shutDown.agrees, h.shutDown.2.2.2⟩, fun hi clock folder options => ?_,
    fun clock folder options e he => ?_⟩
  · refine ⟨Desk.apply_start_of_initialized hi clock folder options, ?_⟩
    rw [Journal.start_of_initialized clock folder options last.out hi]
  · exact Journal.journal_of_start_error clock folder options last.out he

end PeerCheck.Log
