import PeerCheck.Proofs.Files.Content
import PeerCheck.Proofs.Log.Console
import PeerCheck.Proofs.Log.Line
import PeerCheck.Proofs.Log.Period

/-!
# What a run of logging writes

A run makes entries: for each period the record that begins it, and then those logged while it is
open, debug records apart. Each entry is one line of its period's file, and of the console where the
period has one, in the order in which they are made, and nothing else is written there
(`run_writes_entries`). The templates that are logged fit their arguments: a draft without a message
is no record, and nothing is written for it.
-/

namespace PeerCheck.Log

open PeerCheck.Json PeerCheck.Number PeerCheck.Text

/-- A record that was logged at a time, while a period was open. -/
structure Entry where
  period : Period
  time : Binary64
  record : Record

namespace Entry

/-- The line of an entry. An entry whose time has no written form has none. -/
def line? (e : Entry) : Option String := (recordLine e.time e.record none).toOption

def rolls (e : Entry) (fs : Files) : Bool :=
  match e.line? with
  | some line =>
    e.period.sink.isFull fs (Utf8.encode (line ++ "\n").toList) && 0 < e.period.sink.backups
  | none => false

end Entry

/-- The message of a draft whose template fits its arguments; of any other, its template. -/
def Draft.message (d : Draft) : String :=
  (formatMessage d.template d.arguments).toOption.getD d.template

/-- The entry of a draft that is logged in a period. A debug record has none. -/
def Period.logged (p : Period) (clock : Binary64) (d : Draft) : List Entry :=
  if Level.info.rank ≤ d.level.rank then [⟨p, clock, ⟨d.logger, d.level, d.message⟩⟩] else []

def Fits (steps : List Step) : Prop :=
  ∀ clock d, .log clock d ∈ steps → ∃ message, formatMessage d.template d.arguments = .ok message

/-- The entries that a step makes, `current` being open before it: a set-up that takes effect makes
the one that begins its period. -/
def Step.entries (fs : Files) (current : Option Period) : Step → List Entry
  | .start clock folder options =>
    match current, beginning folder options fs with
    | none, some p => [⟨p, clock, openingRecord (Path.below folder fileName) options.console⟩]
    | _, _ => []
  | .shutDown => []
  | .log clock d =>
    match current with
    | some p => p.logged clock d
    | none => []

/-- The entries that some steps make. -/
def entries (s : Desk) (current : Option Period) : List Step → List Entry
  | [] => []
  | st :: steps =>
    st.entries s.out.files current ++ entries (s.apply st) (st.next s.out.files current) steps

def Unrolled (s : Desk) (current : Option Period) : List Step → Prop
  | [] => True
  | st :: steps =>
    (∀ e ∈ st.entries s.out.files current, e.rolls s.out.files = false) ∧
      Unrolled (s.apply st) (st.next s.out.files current) steps

def linesText (es : List Entry) : String := String.join ((es.filterMap Entry.line?).map (· ++ "\n"))

/-! ## One entry -/

namespace Entry

variable {e : Entry} {line : String} {fs fs' : Files}

theorem line?_eq_some_iff : e.line? = some line ↔ recordLine e.time e.record none = .ok line := by
  unfold line?
  cases recordLine e.time e.record none <;> simp [Except.toOption]

theorem error_of_line?_eq_none (h : e.line? = none) :
    ∃ f, recordLine e.time e.record none = .error f := by
  unfold line? at h
  cases hf : recordLine e.time e.record none with
  | error f => exact ⟨f, rfl⟩
  | ok line =>
    rw [hf] at h
    cases h

/-- A line tells the names of the logger and of the level, and the message. -/
theorem tells_of_line? (h : e.line? = some line) :
    Line.Tells e.record.logger e.record.level.name e.record.message none e.time line :=
  tells_of_recordLine (line?_eq_some_iff.mp h)

theorem line?_eq_none_iff : e.line? = none ↔ ¬ IsDated e.time := by
  rw [← exists_recordLine_iff e.time e.record none, line?]
  cases recordLine e.time e.record none <;> simp [Except.toOption]

/-- Only what the file holds decides whether it is full. -/
theorem rolls_congr (h : fs.Keeps fs') (e : Entry) : e.rolls fs' = e.rolls fs := by
  unfold rolls Sink.isFull
  rw [h]

/-- An entry that moves nothing aside is appended. -/
theorem append_of_not_rolls (hl : e.line? = some line) (h : e.rolls fs = false) :
    e.period.sink.append fs (Utf8.encode (line ++ "\n").toList) =
      fs.append e.period.sink.location (Utf8.encode (line ++ "\n").toList) := by
  simp only [rolls, hl] at h
  unfold Sink.append Sink.roll
  split
  · next hfull =>
    rw [hfull] at h
    rw [if_pos (by simpa using h)]
  · rfl

end Entry

theorem linesText_nil : linesText [] = "" := rfl

theorem linesText_append (es es' : List Entry) :
    linesText (es ++ es') = linesText es ++ linesText es' := by
  rw [linesText, List.filterMap_append, List.map_append, String.join_append]
  rfl

theorem linesText_singleton (e : Entry) : linesText [e] = (e.line?.map (· ++ "\n")).getD "" := by
  unfold linesText
  cases h : e.line? <;> simp [h, String.join_cons]

def bytesFor (loc : Location) (es : List Entry) : List UInt8 :=
  Utf8.encode (linesText (es.filter (·.period.sink.location = loc))).toList

def consoleText (es : List Entry) : String := linesText (es.filter (·.period.console))

theorem bytesFor_append (loc : Location) (es es' : List Entry) :
    bytesFor loc (es ++ es') = bytesFor loc es ++ bytesFor loc es' := by
  unfold bytesFor
  rw [List.filter_append, linesText_append, String.toList_append, Utf8.encode, List.flatMap_append]
  rfl

theorem bytesFor_singleton (loc : Location) (e : Entry) :
    bytesFor loc [e] =
      if loc = e.period.sink.location then Utf8.encode (linesText [e]).toList else [] := by
  unfold bytesFor
  by_cases h : e.period.sink.location = loc
  · subst h
    simp
  · rw [if_neg (Ne.symm h)]
    simp [h, linesText_nil, Utf8.encode]

theorem consoleText_append (es es' : List Entry) :
    consoleText (es ++ es') = consoleText es ++ consoleText es' := by
  unfold consoleText
  rw [List.filter_append, linesText_append]

theorem consoleText_singleton (e : Entry) :
    consoleText [e] = if e.period.console then linesText [e] else "" := by
  unfold consoleText
  cases h : e.period.console <;> simp [h, linesText_nil]

/-- The entries were added: each to its file, and to the console where its period has one. The
console is accounted for if it is `own`: if no foreign handler writes there too. -/
structure Adds (own : Prop) (o o' : Outlets) (es : List Entry) : Prop where
  bytes : ∀ loc, o'.files.bytesAt loc = o.files.bytesAt loc ++ bytesFor loc es
  stdout : own → o'.stdout = o.stdout ++ consoleText es

section

variable {own : Prop} {o o' o'' : Outlets} {es es' : List Entry}

theorem Adds.of_keeps (hf : o.files.Keeps o'.files) (ho : own → o'.stdout = o.stdout) :
    Adds own o o' [] where
  bytes loc := (hf loc).trans (List.append_nil _).symm
  stdout h := (ho h).trans String.append_empty.symm

theorem Adds.refl : Adds own o o [] := .of_keeps (.refl _) fun _ => rfl

theorem Adds.trans (h : Adds own o o' es) (h' : Adds own o' o'' es') :
    Adds own o o'' (es ++ es') where
  bytes loc := by rw [h'.bytes, h.bytes, bytesFor_append, List.append_assoc]
  stdout hown := by
    rw [h'.stdout hown, h.stdout hown, consoleText_append, String.append_assoc]

end

/-! ## One record -/

theorem shown_attach (e : Entry) (h : Level.info.rank ≤ e.record.level.rank) :
    (Journal.attach e.period.sink e.period.console).shown e.time e.record = consoleText [e] := by
  have hlets : (Journal.attach e.period.sink e.period.console).lets e.record.level = true :=
    decide_eq_true h
  have hconsole : Handler.console.shown e.time e.record = linesText [e] := by
    rw [linesText_singleton, Entry.line?]
    unfold Handler.shown
    cases recordLine e.time e.record none <;> rfl
  have hfile : ∀ s, (Handler.file s).shown e.time e.record = "" := fun _ => rfl
  rw [consoleText_singleton, Journal.shown, hlets, if_pos rfl]
  cases hc : e.period.console <;> simp [Journal.attach, String.join_cons, hfile, hconsole]

/-- The console writes to no file. -/
theorem files_write_console (clock : Binary64) (r : Record) (o : Outlets) :
    (Handler.console.write clock r o).files = o.files := by
  unfold Handler.write
  cases recordLine clock r none <;> rfl

theorem files_deliver_attach (e : Entry) (h : Level.info.rank ≤ e.record.level.rank)
    (o : Outlets) :
    ((Journal.attach e.period.sink e.period.console).deliver e.time e.record o).files =
      ((Handler.file e.period.sink).write e.time e.record o).files := by
  have hlets : (Journal.attach e.period.sink e.period.console).lets e.record.level = true :=
    decide_eq_true h
  rw [Journal.deliver, hlets]
  cases hc : e.period.console with
  | false => rfl
  | true => exact files_write_console e.time e.record _

theorem bytesAt_write (e : Entry) (o : Outlets) (loc : Location)
    (hp : Files.isAbove e.period.sink.location = false) (hr : e.rolls o.files = false) :
    ((Handler.file e.period.sink).write e.time e.record o).files.bytesAt loc =
      o.files.bytesAt loc ++ bytesFor loc [e] := by
  rw [bytesFor_singleton, linesText_singleton]
  cases hl : e.line? with
  | none =>
    obtain ⟨f, hf⟩ := Entry.error_of_line?_eq_none hl
    have hnone : Utf8.encode ((none : Option String).map (· ++ "\n") |>.getD "").toList = [] := rfl
    rw [Handler.write, hf, hnone, ite_self, List.append_nil]
  | some line =>
    have hline := Entry.line?_eq_some_iff.mp hl
    simp only [Handler.write, hline, Entry.append_of_not_rolls hl hr]
    exact Files.bytesAt_append hp _ loc

variable {own : Prop}

/-- A record that a period lets through makes its entry. -/
theorem adds_deliver (e : Entry) (h : Level.info.rank ≤ e.record.level.rank)
    (hp : Files.isAbove e.period.sink.location = false) (o : Outlets)
    (hr : e.rolls o.files = false) :
    Adds own o ((Journal.attach e.period.sink e.period.console).deliver e.time e.record o) [e] where
  bytes loc := by rw [files_deliver_attach e h, bytesAt_write e o loc hp hr]
  stdout _ := by rw [Journal.stdout_deliver, shown_attach e h]

/-- A record below that level goes nowhere. -/
theorem deliver_attach_of_lt (p : Period) {clock : Binary64} {r : Record} (o : Outlets)
    (h : ¬ Level.info.rank ≤ r.level.rank) :
    (Journal.attach p.sink p.console).deliver clock r o = o := by
  have hlets : (Journal.attach p.sink p.console).lets r.level = false := decide_eq_false h
  rw [Journal.deliver, hlets]
  rfl

theorem files_writeAll_foreign (clock : Binary64) (r : Record) {hs : List Handler}
    (h : ∀ x ∈ hs, x = .foreign) (o : Outlets) :
    (hs.foldl (fun o x => x.write clock r o) o).files = o.files := by
  induction hs generalizing o with
  | nil => rfl
  | cons x hs ih =>
    obtain rfl := h _ List.mem_cons_self
    rw [List.foldl_cons, ih fun y hy => h y (List.mem_cons_of_mem _ hy)]
    rfl

/-- Foreign handlers write to no file, and where there is none the console is left alone too. -/
theorem adds_deliver_foreign {j : Journal} (hforeign : ∀ x ∈ j.handlers, x = .foreign)
    (hown : own → j.handlers = []) (clock : Binary64) (r : Record) (o : Outlets) :
    Adds own o (j.deliver clock r o) [] := by
  refine .of_keeps (fun loc => ?_) fun h => ?_
  · unfold Journal.deliver
    split
    · rfl
    · split
      · unfold Journal.writeBare
        split <;> rfl
      · rw [files_writeAll_foreign clock r hforeign]
  · rw [Journal.stdout_deliver, Journal.shown, hown h, List.map_nil, String.join_nil, ite_self,
      String.append_empty]

/-! ## One step -/

theorem keeps_openFolder (folder : Text.Spelling) (fs : Files) : fs.Keeps (openFolder folder fs).2 := by
  have hmake := Files.keeps_makeFolders fs folder
  unfold openFolder
  split
  · exact .refl fs
  · split
    · next h =>
      rw [h] at hmake
      exact hmake
    · exact hmake

theorem keeps_of_openFile {path : Text.Spelling} {fs fs' : Files} {loc : Location}
    (h : openFile path fs = .ok (loc, fs')) : fs.Keeps fs' ∧ Files.isAbove loc = false := by
  unfold openFile at h
  cases ho : fs.openToAppend path with
  | error e =>
    rw [ho] at h
    cases h
  | ok found =>
    rw [ho] at h
    cases h
    exact Files.keeps_of_openToAppend ho

theorem locateFor_of_openFile {path : Text.Spelling} {fs fs' : Files} {loc : Location}
    (h : openFile path fs = .ok (loc, fs')) : fs.locateFor path = .ok loc := by
  unfold openFile Files.openToAppend at h
  cases hl : fs.locateFor path with
  | error e =>
    rw [hl] at h
    cases h
  | ok found =>
    rw [hl] at h
    simp only [bind, Except.bind] at h
    split at h <;> cases h <;> rfl

/-- Opening a log file changes the content of no file, and the log file is no folder. -/
theorem keeps_openLog (folder : Text.Spelling) (fs : Files) :
    fs.Keeps (openLog folder fs).2 ∧
      ∀ loc, (openLog folder fs).1 = .ok loc → Files.isAbove loc = false := by
  have hfolder := keeps_openFolder folder fs
  unfold openLog
  rcases hf : openFolder folder fs with ⟨_ | _, fs'⟩
  · rw [hf] at hfolder
    exact ⟨hfolder, nofun⟩
  · rw [hf] at hfolder
    dsimp only
    cases hfile : openFile (Path.below folder fileName) fs' with
    | error e => exact ⟨hfolder, nofun⟩
    | ok found =>
      obtain ⟨hkeep, habove⟩ := keeps_of_openFile hfile
      refine ⟨hfolder.trans hkeep, ?_⟩
      rintro _ ⟨⟩
      exact habove

/-- A period writes to the log file of its folder with the sizes of its options, and to the console
if that was asked for. -/
theorem period_of_beginning {folder : Text.Spelling} {options : Options} {fs : Files} {p : Period}
    (h : beginning folder options fs = some p) :
    (openFolder folder fs).2.locateFor (Path.below folder fileName) = .ok p.sink.location ∧
      p = ⟨⟨p.sink.location, options.maxBytes, options.backups⟩, options.console⟩ := by
  unfold beginning openLog at h
  rcases hf : openFolder folder fs with ⟨_ | _, fs'⟩
  · rw [hf] at h
    cases h
  · rw [hf] at h
    dsimp only at h
    cases hfile : openFile (Path.below folder fileName) fs' with
    | error e =>
      rw [hfile] at h
      cases h
    | ok found =>
      rw [hfile] at h
      cases h
      exact ⟨locateFor_of_openFile hfile, rfl⟩

/-- The file of a period is no folder. -/
theorem isFile_of_beginning {folder : Text.Spelling} {options : Options} {fs : Files} {p : Period}
    (h : beginning folder options fs = some p) : Files.isAbove p.sink.location = false := by
  unfold beginning at h
  split at h
  · next loc hloc =>
    obtain rfl := Option.some.inj h
    exact (keeps_openLog folder fs).2 loc hloc
  · cases h

/-- A record that is logged in a period makes an entry of that period, if it is an information
record at least. -/
theorem of_mem_logged {p : Period} {clock : Binary64} {d : Draft} {e : Entry}
    (h : e ∈ p.logged clock d) : e.period = p ∧ Level.info.rank ≤ e.record.level.rank := by
  unfold Period.logged at h
  split at h
  · next hl =>
    obtain rfl := List.mem_singleton.mp h
    exact ⟨rfl, hl⟩
  · cases h

/-- The period of an entry is open after the step that makes it. -/
theorem next_of_mem_entries {st : Step} {fs : Files} {current : Option Period} {e : Entry}
    (h : e ∈ st.entries fs current) : st.next fs current = some e.period := by
  cases st with
  | shutDown => cases h
  | log clock d =>
    cases current with
    | none => cases h
    | some p => exact congrArg some (of_mem_logged h).1.symm
  | start clock folder options =>
    simp only [Step.entries] at h
    split at h
    · next hbegin =>
      obtain rfl := List.mem_singleton.mp h
      exact hbegin
    · cases h

/-- The journal follows the open period, whose file is no folder; where the console is its own, no
handler is attached outside of periods. -/
structure Steady (own : Prop) (s : Desk) (current : Option Period) : Prop where
  follows : s.journal.Follows current
  bare : own → current = none → s.journal.handlers = []
  isFile : ∀ p, current = some p → Files.isAbove p.sink.location = false

theorem steady_unset (foreign : Nat) (level : Level) (o : Outlets) :
    Steady (foreign = 0) ⟨.unset foreign level, o⟩ none where
  follows := Journal.follows_unset foreign level
  bare h _ := by
    rw [h]
    rfl
  isFile := nofun

variable {s : Desk} {current : Option Period}

/-- Outside of periods no handler comes to be attached. -/
theorem Steady.bare_apply (h : Steady own s current) (st : Step) (hown : own)
    (hnone : st.next s.out.files current = none) : (s.apply st).journal.handlers = [] := by
  cases st with
  | shutDown =>
    cases current with
    | some p => simp only [Desk.apply, show s.journal = _ from h.follows, Journal.shutDown_attach]
    | none =>
      obtain ⟨-, hfile, hconsole, -⟩ := h.follows
      simp only [Desk.apply, Journal.shutDown, hfile, hconsole]
      exact h.bare hown rfl
  | log clock d => exact h.bare hown hnone
  | start clock folder options =>
    cases current with
    | some p => exact absurd hnone (Option.some_ne_none p)
    | none =>
      simp only [Step.next, beginning] at hnone
      simp only [Desk.apply, Journal.start_of_fresh clock folder options s.out h.follows.1]
      rcases hlog : openLog folder s.out.files with ⟨_ | loc, fs⟩
      · exact h.bare hown rfl
      · rw [hlog] at hnone
        exact absurd hnone (Option.some_ne_none _)

theorem Steady.isFile_next (h : Steady own s current) (st : Step) {p : Period}
    (hp : st.next s.out.files current = some p) : Files.isAbove p.sink.location = false := by
  cases st with
  | shutDown => exact absurd hp.symm (Option.some_ne_none p)
  | log clock d => exact h.isFile p hp
  | start clock folder options =>
    cases current with
    | some q => exact h.isFile p hp
    | none => exact isFile_of_beginning hp

theorem Steady.apply (h : Steady own s current) (st : Step) :
    Steady own (s.apply st) (st.next s.out.files current) where
  follows := h.follows.apply st
  bare := h.bare_apply st
  isFile _ hp := h.isFile_next st hp

/-- A draft that is logged writes its entry, if it makes one. -/
theorem Steady.adds_log (h : Steady own s current) (clock : Binary64) (d : Draft)
    (hfits : ∃ message, formatMessage d.template d.arguments = .ok message)
    (hr : ∀ e ∈ (Step.log clock d).entries s.out.files current, e.rolls s.out.files = false) :
    Adds own s.out (s.journal.deliverDraft clock d s.out)
      ((Step.log clock d).entries s.out.files current) := by
  obtain ⟨message, hm⟩ := hfits
  have hmessage : d.message = message := by rw [Draft.message, hm]; rfl
  have hrecord : d.record = .ok ⟨d.logger, d.level, d.message⟩ := by
    rw [Draft.record, hm, hmessage]
  simp only [Journal.deliverDraft, Step.entries, Period.logged, hrecord] at hr ⊢
  cases current with
  | none =>
    have hforeign : ∀ x ∈ s.journal.handlers, x = .foreign := h.follows.2.2.2
    exact adds_deliver_foreign hforeign (fun hown => h.bare hown rfl) clock _ s.out
  | some p =>
    rw [show s.journal = _ from h.follows]
    by_cases hl : Level.info.rank ≤ d.level.rank
    · simp only [hl, if_true, List.mem_singleton, forall_eq] at hr ⊢
      exact adds_deliver ⟨p, clock, ⟨d.logger, d.level, d.message⟩⟩ hl (h.isFile p rfl) s.out hr
    · simp only [hl, if_false]
      rw [deliver_attach_of_lt p s.out hl]
      exact .refl

/-- A set-up where no period is open writes the entry that begins one, if it succeeds. -/
theorem Steady.adds_start (h : Steady own s none) (clock : Binary64) (folder : Text.Spelling)
    (options : Options)
    (hr : ∀ e ∈ (Step.start clock folder options).entries s.out.files none,
      e.rolls s.out.files = false) :
    Adds own s.out (s.apply (.start clock folder options)).out
      ((Step.start clock folder options).entries s.out.files none) := by
  obtain ⟨hkeep, habove⟩ := keeps_openLog folder s.out.files
  simp only [Desk.apply, Journal.start_of_fresh clock folder options s.out h.follows.1,
    Step.entries, beginning] at hr ⊢
  rcases hlog : openLog folder s.out.files with ⟨_ | loc, fs⟩
  · rw [hlog] at hkeep
    exact .of_keeps hkeep fun _ => rfl
  · rw [hlog] at hkeep hr habove
    simp only [List.mem_singleton, forall_eq] at hr
    -- the file is there before the record is written to it
    have hopened : Adds own s.out { s.out with files := fs } [] := .of_keeps hkeep fun _ => rfl
    let e : Entry := ⟨⟨⟨loc, options.maxBytes, options.backups⟩, options.console⟩, clock,
      openingRecord (Path.below folder fileName) options.console⟩
    have hroom : e.rolls fs = false := (Entry.rolls_congr hkeep e).trans hr
    have hlevel : Level.info.rank ≤ e.record.level.rank := Nat.le_refl Level.info.rank
    have hfile : Files.isAbove e.period.sink.location = false := habove loc rfl
    exact hopened.trans (adds_deliver e hlevel hfile { s.out with files := fs } hroom)

/-- A step writes the entries it makes and nothing else. -/
theorem Steady.adds_apply (h : Steady own s current) (st : Step) (hfits : Fits [st])
    (hr : ∀ e ∈ st.entries s.out.files current, e.rolls s.out.files = false) :
    Adds own s.out (s.apply st).out (st.entries s.out.files current) := by
  cases st with
  | shutDown => exact .refl
  | log clock d => exact h.adds_log clock d (hfits clock d List.mem_cons_self) hr
  | start clock folder options =>
    cases current with
    | some p =>
      have hi : s.journal.initialized = true := by rw [show s.journal = _ from h.follows]; rfl
      rw [Desk.apply_start_of_initialized hi]
      exact .refl
    | none => exact h.adds_start clock folder options hr

theorem Steady.adds_run (h : Steady own s current) (steps : List Step) (hfits : Fits steps)
    (hr : Unrolled s current steps) :
    Adds own s.out (s.run steps).out (entries s current steps) := by
  induction steps generalizing s current with
  | nil => exact .refl
  | cons st steps ih =>
    have hfirst : Fits [st] := fun clock d hm =>
      hfits clock d (List.mem_cons.mpr (.inl (List.mem_singleton.mp hm)))
    have hrest : Fits steps := fun clock d hm => hfits clock d (List.mem_cons_of_mem st hm)
    exact (h.adds_apply st hfirst hr.1).trans (ih (h.apply st) hrest hr.2)

/-- A size without a limit, or no old file to keep. -/
def Sink.IsUnlimited (s : Sink) : Prop := s.maxBytes ≤ 0 ∨ s.backups ≤ 0

theorem Entry.rolls_of_isUnlimited {e : Entry} (h : e.period.sink.IsUnlimited) (fs : Files) :
    e.rolls fs = false := by
  unfold rolls Sink.isFull
  cases e.line? with
  | none => rfl
  | some line =>
    rcases h with h | h
    · simp [Int.not_lt.mpr h]
    · simp [Int.not_lt.mpr h]

/-- With such sizes alone no file is moved aside. -/
theorem unrolled_of_isUnlimited {s : Desk} {current : Option Period} {steps : List Step}
    (hcurrent : ∀ p, current = some p → p.sink.IsUnlimited)
    (h : ∀ clock folder options, .start clock folder options ∈ steps →
      options.maxBytes ≤ 0 ∨ options.backups ≤ 0) : Unrolled s current steps := by
  induction steps generalizing s current with
  | nil => trivial
  | cons st steps ih =>
    have hnext : ∀ p, st.next s.out.files current = some p → p.sink.IsUnlimited := by
      intro p hp
      cases st with
      | shutDown => cases hp
      | log clock d => exact hcurrent p hp
      | start clock folder options =>
        cases current with
        | some q => exact hcurrent p hp
        | none =>
          rw [(period_of_beginning hp).2]
          exact h clock folder options List.mem_cons_self
    refine ⟨fun e he => Entry.rolls_of_isUnlimited ?_ _, ih hnext fun clock folder options hm =>
      h clock folder options (List.mem_cons_of_mem _ hm)⟩
    exact hnext e.period (next_of_mem_entries he)

/-! ## Period by period -/

theorem entries_append (s : Desk) (current : Option Period) (steps more : List Step) :
    entries s current (steps ++ more) =
      entries s current steps ++ entries (s.run steps) (periodAfter s current steps) more := by
  induction steps generalizing s current with
  | nil => rfl
  | cons st steps ih =>
    rw [List.cons_append, entries, ih, entries, List.append_assoc]
    rfl

def Period.loggedIn (p : Period) (steps : List Step) : List Entry :=
  steps.flatMap fun
    | .log clock d => p.logged clock d
    | _ => []

/-- While a period stays open all drafts make their entries, and set-ups make none. -/
theorem entries_during (s : Desk) (p : Period) {steps : List Step} (h : .shutDown ∉ steps) :
    entries s (some p) steps = p.loggedIn steps ∧ periodAfter s (some p) steps = some p := by
  induction steps generalizing s with
  | nil => exact ⟨rfl, rfl⟩
  | cons st steps ih =>
    rw [List.mem_cons, not_or] at h
    obtain ⟨hes, hlast⟩ := ih (s.apply st) h.2
    have hnext : st.next s.out.files (some p) = some p := by
      cases st with
      | shutDown => exact absurd rfl h.1
      | _ => rfl
    rw [entries, periodAfter, hnext, hes, hlast]
    refine ⟨?_, rfl⟩
    cases st <;> rfl

/-- The entries of a run in which a period begins: those before it, the one that begins it, one for
each record that is logged before logging is shut down, and those after that. -/
theorem entries_of_period {s : Desk} {before during : List Step} {clock : Binary64}
    {folder : Text.Spelling} {options : Options} {p : Period} (hnone : periodAfter s none before = none)
    (hbegin : beginning folder options (s.run before).out.files = some p)
    (hduring : .shutDown ∉ during) (after : List Step) :
    entries s none (before ++ .start clock folder options :: (during ++ after)) =
      entries s none before ++
        ⟨p, clock, openingRecord (Path.below folder fileName) options.console⟩ ::
          (p.loggedIn during ++
            entries (s.run (before ++ .start clock folder options :: during)) (some p) after) := by
  let opened := (s.run before).apply (.start clock folder options)
  have hfirst : (Step.start clock folder options).entries (s.run before).out.files none =
      [⟨p, clock, openingRecord (Path.below folder fileName) options.console⟩] := by
    simp only [Step.entries, hbegin]
  have hopen : (Step.start clock folder options).next (s.run before).out.files none = some p :=
    hbegin
  obtain ⟨hlogged, hstill⟩ := entries_during opened p hduring
  have hlast : s.run (before ++ .start clock folder options :: during) = opened.run during := by
    simp only [Desk.run, List.foldl_append, List.foldl_cons, opened]
  rw [entries_append, hnone, entries, hfirst, hopen, entries_append, hlogged, hstill, hlast]
  rfl

/-- What is logged where no period is open makes no entry. -/
theorem entries_outside {s : Desk} {before : List Step} (hnone : periodAfter s none before = none)
    (clock : Binary64) (d : Draft) (after : List Step) :
    entries s none (before ++ .log clock d :: after) =
      entries s none before ++ entries (s.run (before ++ [.log clock d])) none after := by
  have hlast : s.run (before ++ [.log clock d]) = (s.run before).apply (.log clock d) := by
    simp only [Desk.run, List.foldl_append, List.foldl_cons, List.foldl_nil]
  rw [entries_append, hnone, hlast]
  rfl

/-- Debug records make no entries. -/
theorem info_le_of_mem_entries {s : Desk} {current : Option Period} {steps : List Step} {e : Entry}
    (h : e ∈ entries s current steps) : Level.info.rank ≤ e.record.level.rank := by
  induction steps generalizing s current with
  | nil => cases h
  | cons st steps ih =>
    rcases List.mem_append.mp h with h | h
    · cases st with
      | shutDown => cases h
      | log clock d =>
        cases current with
        | none => cases h
        | some p => exact (of_mem_logged h).2
      | start clock folder options =>
        simp only [Step.entries] at h
        split at h
        · obtain rfl := List.mem_singleton.mp h
          exact Nat.le_refl Level.info.rank
        · cases h
    · exact ih h

/-- While no file is full, a run writes its entries and nothing else: to a file those of the periods
that write there, and to the console those of the periods that have it, in the order in which they
are made. Each is at least an information record, and is one line that tells its logger, its level
and its message; only one whose time has no written form is lost. From the beginning of a period
until logging is shut down, the entries are the one that begins it and one for each record that is
logged; where no period is open there are none. -/
theorem run_writes_entries (foreign : Nat) (level : Level) (o : Outlets) (steps : List Step)
    (hfits : Fits steps)
    (hr : Unrolled ⟨.unset foreign level, o⟩ none steps) :
    let first : Desk := ⟨.unset foreign level, o⟩
    let last := first.run steps
    let es := entries first none steps
    (∀ loc, last.out.files.bytesAt loc = o.files.bytesAt loc ++ bytesFor loc es) ∧
      (foreign = 0 → last.out.stdout = o.stdout ++ consoleText es) ∧
      (∀ e ∈ es, Level.info.rank ≤ e.record.level.rank ∧ (e.line? = none ↔ ¬ IsDated e.time) ∧
        ∀ line, e.line? = some line →
          Line.Tells e.record.logger e.record.level.name e.record.message none e.time line) ∧
      (∀ before clock folder options during after p,
        steps = before ++ .start clock folder options :: (during ++ after) →
        periodAfter first none before = none →
        beginning folder options (first.run before).out.files = some p → .shutDown ∉ during →
        es = entries first none before ++
            ⟨p, clock, ⟨"root", .info, "Logging initialized. console_enabled=" ++
              (if options.console then "True" else "False") ++ ", log_path=" ++
                (Path.below folder fileName).shown⟩⟩ ::
              (p.loggedIn during ++
                entries (first.run (before ++ .start clock folder options :: during)) (some p)
                  after) ∧
          (openFolder folder (first.run before).out.files).2.locateFor
              (Path.below folder fileName) = .ok p.sink.location ∧
          p = ⟨⟨p.sink.location, options.maxBytes, options.backups⟩, options.console⟩) ∧
      ∀ before clock d after, steps = before ++ .log clock d :: after →
        periodAfter first none before = none →
        es = entries first none before ++
          entries (first.run (before ++ [.log clock d])) none after := by
  intro first last es
  have hadds : Adds (foreign = 0) o last.out es :=
    (steady_unset foreign level o).adds_run steps hfits hr
  refine ⟨hadds.bytes, hadds.stdout, fun e he => ?_, ?_, ?_⟩
  · exact ⟨info_le_of_mem_entries he, Entry.line?_eq_none_iff,
      fun line hline => Entry.tells_of_line? hline⟩
  · rintro before clock folder options during after p rfl hnone hbegin hduring
    exact ⟨entries_of_period hnone hbegin hduring after, period_of_beginning hbegin⟩
  · rintro before clock d after rfl hnone
    exact entries_outside hnone clock d after

/-- Logging is set up twice, in two folders, and records are logged before, between and in the two
periods. -/
def twoPeriods : List Step :=
  let said message := Step.log .zero ⟨loggerName "config", .info, message, []⟩
  [said "early", .start .zero "a" { console := true, maxBytes := 0 }, said "in a", .shutDown,
    said "between", .start .zero "b" { maxBytes := 0 }, said "in b"]

theorem run_writes_entries_twoPeriods :
    let first : Desk := ⟨.unset 0 .warning, {}⟩
    let es := entries first none twoPeriods
    Fits twoPeriods ∧ Unrolled first none twoPeriods ∧
      es.map (·.period.sink.location) =
        (["a", "a", "b", "b"].map fun folder => [.of folder, .of fileName]) ∧
      (∀ loc, (first.run twoPeriods).out.files.bytesAt loc =
        first.out.files.bytesAt loc ++ bytesFor loc es) ∧
      (first.run twoPeriods).out.stdout = first.out.stdout ++ consoleText es := by
  have hr : Unrolled ⟨.unset 0 .warning, {}⟩ none twoPeriods := by
    refine unrolled_of_isUnlimited nofun fun clock folder options h => .inl ?_
    simp only [twoPeriods, List.mem_cons, reduceCtorEq, Step.start.injEq, List.not_mem_nil,
      false_or, or_false] at h
    obtain ⟨-, -, rfl⟩ | ⟨-, -, rfl⟩ := h <;> exact Int.le_refl 0
  have hfits : Fits twoPeriods := by
    intro clock d h
    simp only [twoPeriods, List.mem_cons, reduceCtorEq, Step.log.injEq, List.not_mem_nil,
      false_or, or_false] at h
    obtain ⟨-, rfl⟩ | ⟨-, rfl⟩ | ⟨-, rfl⟩ | ⟨-, rfl⟩ := h <;> exact ⟨_, rfl⟩
  obtain ⟨hbytes, hstdout, -⟩ := run_writes_entries 0 .warning {} twoPeriods hfits hr
  exact ⟨hfits, hr, by decide +kernel, hbytes, hstdout rfl⟩

end PeerCheck.Log
