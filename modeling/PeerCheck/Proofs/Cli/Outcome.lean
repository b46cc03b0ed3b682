import PeerCheck.Cli.Run
import PeerCheck.Proofs.Config.Outcome
import PeerCheck.Proofs.Mirroring
import PeerCheck.Proofs.Verdict

/-!
# How a run of the host checker ends

A run that ends with an exit code has printed one report, after the records that are mirrored; the
code tells whether the report is a passing verdict, a failing one, or what kept the run from a
verdict (`Found`). A run that fails has printed no report. Faults of the system and unsuitable
values make it fail at six points only (`Escapes`).
-/

namespace PeerCheck

open PeerCheck.Json PeerCheck.Log PeerCheck.Config PeerCheck.Text

def World.printed (w : World) (s : String) : World :=
  { w with out := { w.out with stdout := w.out.stdout ++ s ++ "\n" } }

namespace Cli

/-! ## Findings -/

/-- What a run reports: a verdict, or what kept it from one. -/
inductive Finding
  | verdict (v : Verdict)
  | trouble (message : String)

namespace Finding

def report : Finding → Value
  | verdict v => .obj v.fields
  | trouble message => .obj [("passed", .bool false), ("error", .str message)]

def exitCode : Finding → Nat
  | verdict v => if v.passed then exitPassed else exitFailed
  | trouble _ => exitFault

theorem exitCode_eq_exitPassed_iff (f : Finding) :
    f.exitCode = exitPassed ↔ ∃ v, f = .verdict v ∧ v.passed = true := by
  cases f with
  | verdict v => cases h : v.passed <;> simp [exitCode, h, exitPassed, exitFailed]
  | trouble m => simp [exitCode, exitPassed, exitFault]

theorem exitCode_eq_exitFailed_iff (f : Finding) :
    f.exitCode = exitFailed ↔ ∃ v, f = .verdict v ∧ v.passed = false := by
  cases f with
  | verdict v => cases h : v.passed <;> simp [exitCode, h, exitPassed, exitFailed]
  | trouble m => simp [exitCode, exitFailed, exitFault]

theorem exitCode_eq_exitFault_iff (f : Finding) :
    f.exitCode = exitFault ↔ ∃ m, f = .trouble m := by
  cases f with
  | verdict v => cases h : v.passed <;> simp [exitCode, h, exitPassed, exitFailed, exitFault]
  | trouble m => simp [exitCode]

end Finding

/-! ## What is printed -/

/-- Logging was set up, or that was tried: at most the record that begins it was mirrored. -/
structure Opens (w w' : World) : Prop where
  clock : w'.clock = w.clock
  trail : w'.trail = w.trail
  stdout : w'.out.stdout = w.out.stdout ∨ ∃ folder console, w'.out.stdout = w.out.stdout ++
    w'.journal.shown w.clock (openingRecord (Path.below folder fileName) console)

/-- Nothing was printed but mirrored records: those that were emitted, and between them the one that
begins logging where it was set up. -/
def Logs (w w' : World) : Prop := ∃ u v, w.Mirrors u ∧ (v = u ∨ Opens u v) ∧ v.Mirrors w'

theorem Logs.trans {w u v : World} (h : Logs w u) (h' : u.Mirrors v) : Logs w v := by
  obtain ⟨x, y, hx, hy, hu⟩ := h
  exact ⟨x, y, hx, hy, hu.trans h'⟩

theorem Logs.of_mirrors {w u : World} (h : w.Mirrors u) : Logs w u := ⟨u, u, h, .inl rfl, refl u⟩

/-- The report was printed last, and before it only records that are mirrored. -/
def Reports (w w' : World) (f : Finding) : Prop := ∃ u, Logs w u ∧ w' = u.printed f.report.pretty

/-! ## Stages -/

variable (a : Arguments) (host : String) (w : World)

/-- The settings are loaded, and logging is set up where it is asked for. -/
inductive Ready (s : Settings) : World → Prop
  | unlogged (u : World) (hs : (settingsFor (given? a.config)).run w = (.ok s, u))
    (hf : logFolder a s = none) : Ready s u
  | logged (u v : World) (folder : Spelling)
    (hs : (settingsFor (given? a.config)).run w = (.ok s, u)) (hf : logFolder a s = some folder)
    (hl : (startLogging folder (a.debugConsole || s.debugConsole.isSet)).run u = (.ok (), v)) :
    Ready s v

/-- The attempt to connect to the host, with the settings if a file for them was named. -/
def opening (s : Settings) : Act Nat :=
  openSocket a (if (given? a.config).isSome then some s else none) host

def unloadableMessage (path : String) (e : Fault) : String :=
  s!"Unable to load certificate '{path}': {e.message}"

def unconnectedMessage (e : Fault) : String :=
  s!"Connection to {host}:{String.ofList (Text.decimalInt a.port)} failed: {e.message}"

/-- What a run reports, stage by stage. -/
inductive Found : Finding → Prop
  | settings (c : ConfigFault) (u : World)
    (hs : (settingsFor (given? a.config)).run w = (.error (.config c), u)) :
    Found (.trouble c.message)
  | logging (s : Settings) (u v : World) (folder : Spelling) (c : LogSetupFault)
    (hs : (settingsFor (given? a.config)).run w = (.ok s, u)) (hf : logFolder a s = some folder)
    (hl : (startLogging folder (a.debugConsole || s.debugConsole.isSet)).run u =
      (.error (.logSetup c), v)) :
    Found (.trouble c.message)
  | unloadable (s : Settings) (u : World) (path : String) (e : Fault) (hr : Ready a w s u)
    (hp : given? a.certFile = some path) (h : (certificateIn path).run u = (.error e, u))
    (he : isLoadFault e = true) :
    Found (.trouble (unloadableMessage path e))
  | file (s : Settings) (u : World) (path : String) (c : Cert.Certificate) (v : Verdict)
    (rs : List Record) (hr : Ready a w s u) (hp : given? a.certFile = some path)
    (h : (certificateIn path).run u = (.ok c, u))
    (hv : verifyCertificate c (some host) = .ok (v, rs)) :
    Found (.verdict v)
  | unconnected (s : Settings) (u u' : World) (e : Fault) (hr : Ready a w s u)
    (hp : given? a.certFile = none) (ho : (opening a host s).run u = (.error e, u'))
    (he : isConnectionFault e = true) :
    Found (.trouble (unconnectedMessage a host e))
  | unverified (s : Settings) (u u' : World) (x : Unverified) (hr : Ready a w s u)
    (hp : given? a.certFile = none) (ho : (opening a host s).run u = (.error (.unverified x), u')) :
    Found (.verdict (.ofUnverified x))
  | peer (s : Settings) (u u' u'' : World) (n : Nat) (c : Cert.Certificate) (v : Verdict)
    (rs : List Record) (hr : Ready a w s u) (hp : given? a.certFile = none)
    (ho : (opening a host s).run u = (.ok n, u'))
    (ht : (takeCertificate n).run u' = (.ok c, u''))
    (hv : verifyCertificate c (some host) = .ok (v, rs)) :
    Found (.verdict v)

/-- Where a fault goes past all reports: looking for the file of the settings, setting logging up,
writing the subject of a certificate, connecting to the host, and asking the verified socket once
more. -/
inductive Escapes : Fault → Prop
  | configPath (path : String) (cause : FileCause) (hp : given? a.config = some path)
    (hfits : Files.Fits (Path.tidy path))
    (hrefuses : w.out.files.Refuses (Path.tidy path) cause) :
    Escapes (.file ⟨cause, Path.tidy path⟩)
  | logFolder (s : Settings) (u v : World) (folder : Spelling) (e : Fault)
    (hs : (settingsFor (given? a.config)).run w = (.ok s, u)) (hf : logFolder a s = some folder)
    (hl : (startLogging folder (a.debugConsole || s.debugConsole.isSet)).run u = (.error e, v))
    (he : e.IsUnfit) :
    Escapes e
  | fileSubject (s : Settings) (u : World) (path : String) (c : Cert.Certificate) (e : Fault)
    (hr : Ready a w s u) (hp : given? a.certFile = some path)
    (h : (certificateIn path).run u = (.ok c, u)) (hc : c.subject.render = .error e) :
    Escapes e
  | connection (s : Settings) (u u' : World) (e : Fault) (hr : Ready a w s u)
    (hp : given? a.certFile = none) (ho : (opening a host s).run u = (.error e, u'))
    (hos : e.isOs = false) (hvalue : e.isValue = true) :
    Escapes e
  | reread (s : Settings) (u u' u'' : World) (n : Nat) (e : Fault) (hr : Ready a w s u)
    (hp : given? a.certFile = none) (ho : (opening a host s).run u = (.ok n, u'))
    (ht : (takeCertificate n).run u' = (.error e, u'')) :
    Escapes e
  | peerSubject (s : Settings) (u u' u'' : World) (n : Nat) (c : Cert.Certificate) (e : Fault)
    (hr : Ready a w s u) (hp : given? a.certFile = none)
    (ho : (opening a host s).run u = (.ok n, u'))
    (ht : (takeCertificate n).run u' = (.ok c, u'')) (hc : c.subject.render = .error e) :
    Escapes e

/-! ## What each stage does -/

variable {a host w} {α : Type} {s : Settings} {u u' : World} {e : Fault}

theorem run_recovering (kind : Fault → Bool) (m : Act α) (w : World) :
    (recovering kind m).run w = match m.run w with
      | (.ok x, u) => (.ok (.ok x), u)
      | (.error e, u) => if kind e then (.ok (.error e), u) else (.error e, u) := by
  unfold recovering
  rw [run_tryCatch, map_eq_pure_bind, run_bind]
  rcases m.run w with ⟨_ | _, u⟩
  · dsimp only
    split <;> rfl
  · rfl

theorem run_recovering_of_ok {kind : Fault → Bool} {m : Act α} {x : α} (h : m.run w = (.ok x, u)) :
    (recovering kind m).run w = (.ok (.ok x), u) := by
  rw [run_recovering, h]

theorem run_recovering_of_caught {kind : Fault → Bool} {m : Act α} (h : m.run w = (.error e, u))
    (he : kind e = true) : (recovering kind m).run w = (.ok (.error e), u) := by
  rw [run_recovering, h]
  exact if_pos he

theorem run_recovering_of_missed {kind : Fault → Bool} {m : Act α} (h : m.run w = (.error e, u))
    (he : kind e = false) : (recovering kind m).run w = (.error e, u) := by
  rw [run_recovering, h]
  exact if_neg (by rw [he]; exact Bool.false_ne_true)

theorem run_printVerdict (v : Verdict) (u : World) :
    (printVerdict v).run u =
      (.ok (Finding.verdict v).exitCode, u.printed (Finding.verdict v).report.pretty) := rfl

theorem run_printFault (m : String) (u : World) :
    (printFault m).run u =
      (.ok (Finding.trouble m).exitCode, u.printed (Finding.trouble m).report.pretty) := rfl

section Run

variable (ht : a.target? = some host)

include ht

theorem run_of_settled (hs : (settingsFor (given? a.config)).run w = (.ok s, u)) :
    (run a).run w = (runWith a s host).run u := by
  unfold run
  rw [ht]
  exact run_bind_of_ok (run_recovering_of_ok hs)

theorem run_of_unsettled (hs : (settingsFor (given? a.config)).run w = (.error e, u))
    (he : isConfigFault e = false) : (run a).run w = (.error e, u) := by
  unfold run
  rw [ht]
  exact run_bind_of_error (run_recovering_of_missed hs he)

theorem run_of_misconfigured {c : ConfigFault}
    (hs : (settingsFor (given? a.config)).run w = (.error (.config c), u)) :
    (run a).run w = (printFault c.message).run u := by
  unfold run
  rw [ht]
  exact run_bind_of_ok (run_recovering_of_caught hs rfl)

theorem run_of_unlogged {folder : Spelling} {c : LogSetupFault}
    (hs : (settingsFor (given? a.config)).run w = (.ok s, u)) (hf : logFolder a s = some folder)
    (hl : (startLogging folder (a.debugConsole || s.debugConsole.isSet)).run u =
      (.error (.logSetup c), u')) :
    (run a).run w = (printFault (Fault.logSetup c).message).run u' := by
  rw [run_of_settled ht hs]
  unfold runWith
  rw [hf]
  exact run_bind_of_ok (run_recovering_of_caught hl rfl)

theorem run_of_loggingFault {folder : Spelling}
    (hs : (settingsFor (given? a.config)).run w = (.ok s, u)) (hf : logFolder a s = some folder)
    (hl : (startLogging folder (a.debugConsole || s.debugConsole.isSet)).run u = (.error e, u'))
    (he : isLogSetupFault e = false) : (run a).run w = (.error e, u') := by
  rw [run_of_settled ht hs]
  unfold runWith
  rw [hf]
  exact run_bind_of_error (run_recovering_of_missed hl he)

theorem run_of_ready (hr : Ready a w s u) : (run a).run w = (check a s host).run u := by
  cases hr with
  | unlogged _ hs hf =>
    rw [run_of_settled ht hs]
    unfold runWith
    rw [hf]
  | logged v _ folder hs hf hl =>
    rw [run_of_settled ht hs]
    unfold runWith
    rw [hf]
    exact run_bind_of_ok (run_recovering_of_ok hl)

end Run

section Check

variable {path : String} {c : Cert.Certificate} {n : Nat}

theorem run_printCheck_ok {v : Verdict} {rs : List Record}
    (hv : verifyCertificate c (some host) = .ok (v, rs)) (u : World) :
    (printCheck c host).run u = (printVerdict v).run (u.after (rs.map .record)) := by
  unfold printCheck
  rw [hv]
  exact run_bind_of_ok (Act.run_emitAll rs u)

theorem run_printCheck_error (hc : c.subject.render = .error e) (u : World) :
    (printCheck c host).run u = (.error e, u) := by
  unfold printCheck
  rw [verifyCertificate_some, hc]
  rfl

theorem run_check_loaded (hp : given? a.certFile = some path)
    (h : (certificateIn path).run u = (.ok c, u')) :
    (check a s host).run u = (printCheck c host).run u' := by
  unfold check
  rw [hp]
  exact run_bind_of_ok (run_recovering_of_ok h)

theorem run_check_unloadable (hp : given? a.certFile = some path)
    (h : (certificateIn path).run u = (.error e, u')) (he : isLoadFault e = true) :
    (check a s host).run u = (printFault (unloadableMessage path e)).run u' := by
  unfold check
  rw [hp]
  exact run_bind_of_ok (run_recovering_of_caught h he)

theorem run_check_unread (hp : given? a.certFile = some path)
    (h : (certificateIn path).run u = (.error e, u')) (he : isLoadFault e = false) :
    (check a s host).run u = (.error e, u') := by
  unfold check
  rw [hp]
  exact run_bind_of_error (run_recovering_of_missed h he)

theorem run_check_connected (hp : given? a.certFile = none)
    (ho : (opening a host s).run u = (.ok n, u')) :
    (check a s host).run u = (do printCheck (← takeCertificate n) host).run u' := by
  unfold check
  rw [hp]
  exact run_bind_of_ok (run_recovering_of_ok ho)

theorem run_check_unverified {x : Unverified} (hp : given? a.certFile = none)
    (ho : (opening a host s).run u = (.error (.unverified x), u')) :
    (check a s host).run u = (printVerdict (.ofUnverified x)).run u' := by
  unfold check
  rw [hp]
  exact run_bind_of_ok (run_recovering_of_caught ho rfl)

theorem run_check_unconnected (hp : given? a.certFile = none)
    (ho : (opening a host s).run u = (.error e, u')) (he : isConnectionFault e = true) :
    (check a s host).run u = (printFault (unconnectedMessage a host e)).run
      (u'.after [.record (.of "check_host" .error (unconnectedMessage a host e))]) := by
  unfold check
  rw [hp]
  have hcaught : (isUnverified e || isConnectionFault e) = true := by rw [he, Bool.or_true]
  refine (run_bind_of_ok (run_recovering_of_caught ho hcaught)).trans ?_
  cases e with
  | unverified x => cases he
  | _ => exact run_bind_of_ok (Act.run_emit _ u')

theorem run_check_fault (hp : given? a.certFile = none)
    (ho : (opening a host s).run u = (.error e, u')) (hx : isUnverified e = false)
    (he : isConnectionFault e = false) : (check a s host).run u = (.error e, u') := by
  unfold check
  rw [hp]
  exact run_bind_of_error (run_recovering_of_missed ho (by rw [hx, he]; rfl))

end Check

/-! ## What is printed on the way -/

open World (Mirrors)

theorem mirrors_settingsFor (file : Option String) : Leads Mirrors (settingsFor file) := by
  cases file with
  | none => exact .pure _
  | some path => exact Leads.get.bind fun w => Act.mirrors_ofRecorded _

/-- The settings of a file are what loading it with the environment comes to. -/
theorem fst_run_settingsFor (path : String) (w : World) :
    ((settingsFor (some path)).run w).1 = outcome w.out.files w.environment path true := by
  unfold settingsFor
  rw [run_get_bind]
  exact Act.fst_run_ofRecorded (gives_load _ _ _ _) w

theorem run_startLogging (folder : Spelling) (console : Bool) (w : World) :
    (startLogging folder console).run w =
      ((w.journal.start w.clock folder { console := console } w.out).1, { w with
        journal := (w.journal.start w.clock folder { console := console } w.out).2.1
        out := (w.journal.start w.clock folder { console := console } w.out).2.2 }) := by
  unfold startLogging
  rw [run_get_bind]
  exact run_ofExcept _ _

theorem opens_startLogging (folder : Spelling) (console : Bool) (w : World) :
    Opens w ((startLogging folder console).run w).2 := by
  rw [run_startLogging]
  refine ⟨rfl, rfl, ?_⟩
  obtain h | h := Journal.stdout_start w.clock w.out w.journal folder { console := console }
  · exact .inl h
  · exact .inr ⟨folder, console, h⟩

theorem fault_of_startLogging {folder : Spelling} {console : Bool}
    (h : (startLogging folder console).run u = (.error e, u')) :
    e.IsUnfit ∨ ∃ c, e = .logSetup c := by
  rw [run_startLogging] at h
  exact fault_of_start (congrArg Prod.fst h)

theorem run_certificateIn (path : String) (w : World) :
    (certificateIn path).run w =
      (w.out.files.read (Path.tidy path) >>= Cert.Certificate.ofFile, w) := by
  unfold certificateIn
  rw [run_get_bind, run_ofExcept]

theorem mirrors_opening (a : Arguments) (host : String) (s : Settings) :
    Leads Mirrors (opening a host s) :=
  (Factory.mirrors_create _ _).bind fun f => Factory.mirrors_createSocket f _ _ _

theorem mirrors_takeCertificate (n : Nat) : Leads Mirrors (takeCertificate n) :=
  Act.mirrors_converse n _

theorem logs_settings {r : Except Fault Settings}
    (hs : (settingsFor (given? a.config)).run w = (r, u)) : Logs w u :=
  .of_mirrors ((mirrors_settingsFor _).of_run hs)

theorem logs_opened {folder : Spelling} {console : Bool} {r : Except Fault Unit}
    (hs : (settingsFor (given? a.config)).run w = (.ok s, u))
    (hl : (startLogging folder console).run u = (r, u')) : Logs w u' := by
  have hopens := opens_startLogging folder console u
  rw [hl] at hopens
  exact ⟨u, u', (mirrors_settingsFor _).of_run hs, .inr hopens, refl u'⟩

namespace Ready

theorem logs (hr : Ready a w s u) : Logs w u := by
  cases hr with
  | unlogged _ hs => exact logs_settings hs
  | logged v _ folder hs _ hl => exact logs_opened hs hl

theorem logs_opening {r : Except Fault Nat} (hr : Ready a w s u)
    (ho : (opening a host s).run u = (r, u')) : Logs w u' :=
  hr.logs.trans ((mirrors_opening a host s).of_run ho)

theorem logs_taking {u'' : World} {r : Except Fault Nat} {n : Nat}
    {r' : Except Fault Cert.Certificate} (hr : Ready a w s u)
    (ho : (opening a host s).run u = (r, u')) (ht : (takeCertificate n).run u' = (r', u'')) :
    Logs w u'' :=
  (hr.logs_opening ho).trans ((mirrors_takeCertificate n).of_run ht)

end Ready

/-! ## How it ends -/

variable {f : Finding}

theorem reports_verdict {v : Verdict} {u : World} (h : Logs w u) :
    ∃ w', (printVerdict v).run u = (.ok (Finding.verdict v).exitCode, w') ∧
      Reports w w' (.verdict v) :=
  ⟨_, run_printVerdict v u, u, h, rfl⟩

theorem reports_trouble {m : String} {u : World} (h : Logs w u) :
    ∃ w', (printFault m).run u = (.ok (Finding.trouble m).exitCode, w') ∧
      Reports w w' (.trouble m) :=
  ⟨_, run_printFault m u, u, h, rfl⟩

/-- What is found is reported, and the code is the one that belongs to it. -/
theorem Found.reported (ht : a.target? = some host) (h : Found a host w f) :
    ∃ w', (run a).run w = (.ok f.exitCode, w') ∧ Reports w w' f := by
  cases h with
  | settings c u hs =>
    rw [run_of_misconfigured ht hs]
    exact reports_trouble (logs_settings hs)
  | logging s u v folder c hs hf hl =>
    rw [run_of_unlogged ht hs hf hl]
    exact reports_trouble (logs_opened hs hl)
  | unloadable s u path e hr hp h he =>
    rw [run_of_ready ht hr, run_check_unloadable hp h he]
    exact reports_trouble hr.logs
  | file s u path c v rs hr hp h hv =>
    rw [run_of_ready ht hr, run_check_loaded hp h, run_printCheck_ok hv]
    exact reports_verdict (hr.logs.trans (.after u _))
  | unconnected s u u' e hr hp ho he =>
    rw [run_of_ready ht hr, run_check_unconnected hp ho he]
    exact reports_trouble ((hr.logs_opening ho).trans (.after u' _))
  | unverified s u u' x hr hp ho =>
    rw [run_of_ready ht hr, run_check_unverified hp ho]
    exact reports_verdict (hr.logs_opening ho)
  | peer s u u' u'' n c v rs hr hp ho htake hv =>
    rw [run_of_ready ht hr, run_check_connected hp ho, run_bind_of_ok htake, run_printCheck_ok hv]
    exact reports_verdict ((hr.logs_taking ho htake).trans (.after u'' _))

/-- An unsuitable value that is no fault of the system is none that a connection may report. -/
theorem unreported_of_isValue (hos : e.isOs = false) (hvalue : e.isValue = true) :
    isUnverified e = false ∧ isConnectionFault e = false := by
  refine ⟨?_, ?_⟩
  · cases e with
    | unverified x => cases hvalue
    | _ => rfl
  · unfold isConnectionFault
    rw [hos, Bool.or_false]
    cases e with
    | context c => cases hvalue
    | connectTimedOut => cases hos
    | _ => rfl

/-- What escapes makes the run fail, without a report. -/
theorem Escapes.raised (ht : a.target? = some host) (h : Escapes a host w e) :
    ∃ w', (run a).run w = (.error e, w') ∧ Logs w w' := by
  cases h with
  | configPath path cause hp hfits hrefuses =>
    have hfst := fst_run_settingsFor path w
    rw [(FailsOtherwise.refused hfits hrefuses).outcome_eq] at hfst
    rcases hs : (settingsFor (some path)).run w with ⟨r, u⟩
    rw [hs] at hfst
    obtain rfl := hfst
    rw [← hp] at hs
    exact ⟨u, run_of_unsettled ht hs rfl, logs_settings hs⟩
  | logFolder s u v folder e hs hf hl he =>
    have hmissed : isLogSetupFault e = false := by
      obtain rfl | ⟨f, rfl⟩ := he <;> rfl
    exact ⟨v, run_of_loggingFault ht hs hf hl hmissed, logs_opened hs hl⟩
  | fileSubject s u path c e hr hp h hc =>
    refine ⟨u, ?_, hr.logs⟩
    rw [run_of_ready ht hr, run_check_loaded hp h, run_printCheck_error hc]
  | connection s u u' e hr hp ho hos hvalue =>
    obtain ⟨hunverified, hconnection⟩ := unreported_of_isValue hos hvalue
    refine ⟨u', ?_, hr.logs_opening ho⟩
    rw [run_of_ready ht hr, run_check_fault hp ho hunverified hconnection]
  | reread s u u' u'' n e hr hp ho htake =>
    refine ⟨u'', ?_, hr.logs_taking ho htake⟩
    rw [run_of_ready ht hr, run_check_connected hp ho, run_bind_of_error htake]
  | peerSubject s u u' u'' n c e hr hp ho htake hc =>
    refine ⟨u'', ?_, hr.logs_taking ho htake⟩
    rw [run_of_ready ht hr, run_check_connected hp ho, run_bind_of_ok htake,
      run_printCheck_error hc]

/-- A run ends in a report, or it fails without one; then the fault escaped, or it is neither one of
the system nor an unsuitable value. -/
def Ends (a : Arguments) (host : String) (w : World) : Prop :=
  (∃ f, Found a host w f) ∨
    ∃ e w', (run a).run w = (.error e, w') ∧ Logs w w' ∧ (Escapes a host w e ∨ e.IsApart)

theorem Escapes.ends (ht : a.target? = some host) (h : Escapes a host w e) : Ends a host w := by
  obtain ⟨w', hrun, hm⟩ := h.raised ht
  exact .inr ⟨e, w', hrun, hm, .inl h⟩

/-- The check itself ends, once settings and logging are in place. -/
theorem Ready.ends (ht : a.target? = some host) (hr : Ready a w s u) : Ends a host w := by
  cases hp : given? a.certFile with
  | some path =>
    have hfile := run_certificateIn path u
    cases hc : u.out.files.read (Path.tidy path) >>= Cert.Certificate.ofFile with
    | error e =>
      rw [hc] at hfile
      cases he : isLoadFault e with
      | true => exact .inl ⟨_, .unloadable s u path e hr hp hfile he⟩
      | false =>
        refine .inr ⟨e, u, ?_, hr.logs, .inr (Bool.or_eq_false_iff.mp he)⟩
        rw [run_of_ready ht hr, run_check_unread hp hfile he]
    | ok c =>
      rw [hc] at hfile
      cases hv : c.subject.render with
      | error e => exact (Escapes.fileSubject s u path c e hr hp hfile hv).ends ht
      | ok subject =>
        have hverdict := verifyCertificate_of_written hv host
        exact .inl ⟨_, .file s u path c _ _ hr hp hfile hverdict⟩
  | none =>
    rcases ho : (opening a host s).run u with ⟨e | n, u'⟩
    · cases hx : isUnverified e with
      | true =>
        cases e with
        | unverified x => exact .inl ⟨_, .unverified s u u' x hr hp ho⟩
        | _ => cases hx
      | false =>
        cases he : isConnectionFault e with
        | true => exact .inl ⟨_, .unconnected s u u' e hr hp ho he⟩
        | false =>
          -- of the two families only an unsuitable value is left here
          have hos : e.isOs = false := (Bool.or_eq_false_iff.mp he).2
          cases hvalue : e.isValue with
          | true => exact (Escapes.connection s u u' e hr hp ho hos hvalue).ends ht
          | false =>
            refine .inr ⟨e, u', ?_, hr.logs_opening ho, .inr ⟨hos, hvalue⟩⟩
            rw [run_of_ready ht hr, run_check_fault hp ho hx he]
    · rcases htake : (takeCertificate n).run u' with ⟨e | c, u''⟩
      · exact (Escapes.reread s u u' u'' n e hr hp ho htake).ends ht
      · cases hv : c.subject.render with
        | error e => exact (Escapes.peerSubject s u u' u'' n c e hr hp ho htake hv).ends ht
        | ok subject =>
          have hverdict := verifyCertificate_of_written hv host
          exact .inl ⟨_, .peer s u u' u'' n c _ _ hr hp ho htake hverdict⟩

/-- Of the faults that settings are not loaded for, only the refusal of their path escapes. -/
theorem escapes_or_isApart (hs : (settingsFor (given? a.config)).run w = (.error e, u))
    (he : isConfigFault e = false) : Escapes a host w e ∨ e.IsApart := by
  cases hp : given? a.config with
  | none =>
    rw [hp] at hs
    cases hs
  | some path =>
    have hfst := fst_run_settingsFor path w
    rw [← hp, hs] at hfst
    rcases isConfig_or_failsOtherwise hfst.symm with ⟨c, rfl⟩ | hotherwise
    · cases he
    · cases hotherwise with
      | tooLarge => exact .inr ⟨rfl, rfl⟩
      | refused hfits hrefuses => exact .inl (.configPath path _ hp hfits hrefuses)
      | tooDeep => exact .inr ⟨rfl, rfl⟩

theorem ends_of_target (w : World) (ht : a.target? = some host) : Ends a host w := by
  rcases hs : (settingsFor (given? a.config)).run w with ⟨e | s, u⟩
  · cases he : isConfigFault e with
    | true =>
      cases e with
      | config c => exact .inl ⟨_, .settings c u hs⟩
      | _ => cases he
    | false =>
      have hends : Escapes a host w e ∨ e.IsApart := escapes_or_isApart hs he
      exact .inr ⟨e, u, run_of_unsettled ht hs he, logs_settings hs, hends⟩
  · cases hf : logFolder a s with
    | none => exact (Ready.unlogged u hs hf).ends ht
    | some folder =>
      rcases hl : (startLogging folder (a.debugConsole || s.debugConsole.isSet)).run u with
        ⟨e | ⟨⟩, v⟩
      · obtain hunfit | ⟨c, rfl⟩ := fault_of_startLogging hl
        · exact (Escapes.logFolder s u v folder e hs hf hl hunfit).ends ht
        · exact .inl ⟨_, .logging s u v folder c hs hf hl⟩
      · exact (Ready.logged u v folder hs hf hl).ends ht

/-- Arguments that were read without a wish for help have a host. -/
theorem exists_target_of_read {argv : List String} (h : Arguments.read argv = .ok a)
    (hh : a.help = false) : ∃ host, a.host = some host ∧ a.target? = some host := by
  obtain ⟨words, -, h⟩ := exists_of_bind_eq_ok h
  obtain ⟨b, -, h⟩ := exists_of_bind_eq_ok h
  split at h
  · next hb =>
    cases h
    rw [hh] at hb
    cases hb
  · split at h
    · cases h
    · split at h
      · cases h
      · next hhost _ =>
        cases h
        obtain ⟨host, hb⟩ := Option.ne_none_iff_exists'.mp (mt Option.isNone_iff_eq_none.mpr hhost)
        refine ⟨host, hb, ?_⟩
        unfold Arguments.target?
        rw [hh]
        exact hb

end Cli

end PeerCheck
