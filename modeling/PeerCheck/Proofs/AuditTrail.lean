import PeerCheck.Proofs.SocketFaults
import PeerCheck.Proofs.World

/-!
# The records of a verification

What a verification leaves on the loggers follows from its course. The session's logger has a
warning for each step that was started, right before the step's calls, and then the record of how
the climb ended, if it did; the verifier's logger has one record where a certificate was judged, and
none otherwise (`verify_leaves_records`).
-/

namespace PeerCheck

open PeerCheck.Log

/-! ## Announcements -/

def Log.Record.Opens (r : Record) (text : String) : Prop := text.toList <+: r.message.toList

def Log.Record.Announces (r : Record) (c : EventCode) : Prop := r.Opens (c.name ++ ":")

/-- No name with its colon opens another one. -/
theorem Log.Record.Announces.unique {r : Record} {c c' : EventCode} (h : r.Announces c)
    (h' : r.Announces c') : c = c' := by
  have apart : ∀ a b : EventCode, (a.name ++ ":").toList <+: (b.name ++ ":").toList → a = b := by
    intro a b
    cases a <;> cases b <;> first | exact fun _ => rfl | decide
  rcases List.prefix_or_prefix_of_prefix h h' with hp | hp
  · exact apart c c' hp
  · exact (apart c' c hp).symm

namespace Verdict

def event : Option Failure → EventCode
  | none => .hostnameVerified
  | some .noCommonName => .noCommonName
  | some _ => .hostnameMismatch

theorem level_record (host : String) (v : Verdict) :
    (record host v).level = if v.failure = none then .info else .warning := by
  unfold record
  rcases v.failure with _ | _ | _ | _ <;> rfl

theorem logger_record (host : String) (v : Verdict) :
    (record host v).logger = loggerName "verifier" := by
  unfold record
  rcases v.failure with _ | _ | _ | _ <;> rfl

theorem announces_record (host : String) (v : Verdict) :
    (record host v).Announces (event v.failure) := by
  unfold record
  rcases v.failure with _ | _ | _ | _ <;>
    simp [event, Record.Announces, Record.Opens, Record.of, toString]

/-- The record of a verdict tells a pass from each of the two failures of a certificate. -/
structure Tells (failure : Option Failure) (r : Record) : Prop where
  logger : r.logger = "tlsguard.verifier"
  pass_iff : failure = none ↔ r.level = .info ∧ r.Opens "HOSTNAME_VERIFIED:"
  mismatch_iff : failure = some .hostMismatch ↔ r.level = .warning ∧ r.Opens "HOSTNAME_MISMATCH:"
  nameless_iff :
    failure = some .noCommonName ↔ r.level = .warning ∧ r.Opens "CERT_NO_COMMON_NAME:"

theorem tells_record (host : String) (v : Verdict) (h : v.failure ≠ some .sessionUnavailable) :
    Tells v.failure (record host v) := by
  have hl := level_record host v
  have ha := announces_record host v
  have only : ∀ c, (record host v).Announces c ↔ event v.failure = c :=
    fun c => ⟨ha.unique, fun hc => hc ▸ ha⟩
  have hverified : (record host v).Opens "HOSTNAME_VERIFIED:" ↔ _ := only .hostnameVerified
  have hmismatch : (record host v).Opens "HOSTNAME_MISMATCH:" ↔ _ := only .hostnameMismatch
  have hnameless : (record host v).Opens "CERT_NO_COMMON_NAME:" ↔ _ := only .noCommonName
  refine ⟨logger_record host v, ?_, ?_, ?_⟩
  all_goals
    simp only [hl, hverified, hmismatch, hnameless]
    rcases hf : v.failure with _ | _ | _ | _
    · simp [event]
    · exact absurd hf h
    · simp [event]
    · simp [event]

end Verdict

namespace Session

/-! ## The records of a recovery -/

/-- The warning that a step is started: the name of the step, after its event if it has one. -/
def warningOf (st : Step) : Record where
  logger := "tlsguard.session"
  level := .warning
  message := (st.event.elim "" fun e => e.name ++ ": ") ++ "TLS session not available, running " ++
    st.name

/-- The record of a step that brought a session. -/
def recoveryBy (st : Step) : Record where
  logger := "tlsguard.session"
  level := .info
  message := "TLS session recovered after step=" ++ st.name

/-- The record of a ladder that was climbed in vain: it names all the steps in order. -/
def failureOf (l : Ladder) : Record where
  logger := "tlsguard.session"
  level := .error
  message := "TLS_SESSION_UNAVAILABLE: no TLS session after steps=[" ++
    ", ".intercalate (l.map Step.name) ++ "]"

theorem stepRecord_eq : stepRecord = warningOf := by
  funext st
  have hm : (stepRecord st).message = (warningOf st).message := by
    cases h : st.event <;> simp [stepRecord, warningOf, Record.of, h, toString, String.append_assoc]
  exact congrArg (Record.mk "tlsguard.session" .warning) hm

theorem recoveredRecord_eq : recoveredRecord = recoveryBy := by
  funext st
  have hm : (recoveredRecord st).message = (recoveryBy st).message := by
    simp [recoveredRecord, recoveryBy, Record.of, toString]
  exact congrArg (Record.mk "tlsguard.session" .info) hm

theorem exhaustedRecord_eq (l : Ladder) : exhaustedRecord l = failureOf l := by
  have hm : (exhaustedRecord l).message = (failureOf l).message := by
    simp [exhaustedRecord, failureOf, Record.of, toString, EventCode.name, Ladder.names,
      String.append_assoc]
  exact congrArg (Record.mk "tlsguard.session" .error) hm

/-! ## Records on a trail -/

def recordsOn (subsystem : String) (es : List (Event SocketCall)) : List Record :=
  (es.filterMap Event.record?).filter (·.logger = loggerName subsystem)

section RecordsOn

variable (sub : String)

@[simp] theorem recordsOn_nil : recordsOn sub [] = [] := rfl

@[simp] theorem recordsOn_append (es es' : List (Event SocketCall)) :
    recordsOn sub (es ++ es') = recordsOn sub es ++ recordsOn sub es' := by
  simp [recordsOn]

@[simp] theorem recordsOn_cons_call (c : SocketCall) (es : List (Event SocketCall)) :
    recordsOn sub (.call c :: es) = recordsOn sub es := rfl

@[simp] theorem recordsOn_cons_record (r : Record) (es : List (Event SocketCall)) :
    recordsOn sub (.record r :: es) =
      if r.logger = loggerName sub then r :: recordsOn sub es else recordsOn sub es := by
  simp only [recordsOn, List.filterMap_cons_some (rfl : Event.record? (.record r) = some r),
    List.filter_cons, decide_eq_true_eq]

@[simp] theorem recordsOn_map_call (cs : List SocketCall) :
    recordsOn sub (cs.map .call) = [] := by
  induction cs with
  | nil => rfl
  | cons c cs ih => rw [List.map_cons, recordsOn_cons_call, ih]

theorem recordsOn_map_record (rs : List Record) :
    recordsOn sub (rs.map .record) = rs.filter (·.logger = loggerName sub) := by
  induction rs with
  | nil => rfl
  | cons r rs ih => simp [ih, List.filter_cons]

end RecordsOn

theorem session_ne_verifier : loggerName "session" ≠ loggerName "verifier" := by decide

/-- Each round of a climb has the warning of its step. -/
theorem recordsOn_rounds (s : SecureSocket) (l : Ladder) :
    recordsOn "session" (s.rounds l) = l.map warningOf := by
  induction l generalizing s with
  | nil => rfl
  | cons st l ih =>
    have hl : (warningOf st).logger = loggerName "session" := rfl
    rw [SecureSocket.rounds_cons, stepRecord_eq]
    simp [hl, ih]

/-- The recovery is no matter of the verifier's. -/
theorem recordsOn_verifier_rounds (s : SecureSocket) (l : Ladder) :
    recordsOn "verifier" (s.rounds l) = [] := by
  induction l generalizing s with
  | nil => rfl
  | cons st l ih =>
    have hl : (stepRecord st).logger = loggerName "session" := rfl
    rw [SecureSocket.rounds_cons]
    simp [hl, session_ne_verifier, ih]

/-! ## The steps that are started -/

variable {s : SecureSocket} {l : Ladder} {x : Except Fault (Option Session)}
  {es : List (Event SocketCall)} {j k n : Nat} {st : Step}

namespace SecureSocket

/-- Step number `k` is started: the check before it takes place and is in vain. -/
structure Starts (s : SecureSocket) (l : Ladder) (k : Nat) : Prop where
  lt : k < l.length
  reaches : s.Reaches l k
  vain : Vain (s.answer k)

/-- No step is started without those before it. -/
theorem Starts.of_le (h : s.Starts l k) (hj : j ≤ k) : s.Starts l j where
  lt := Nat.lt_of_le_of_lt hj h.lt
  reaches := h.reaches.of_le hj
  vain := by
    rcases Nat.lt_or_eq_of_le hj with hlt | rfl
    · exact h.reaches.vain j hlt
    · exact h.vain

/-- The steps before a check that takes place were started. -/
theorem Reaches.starts (h : s.Reaches l n) (hk : k < n) : s.Starts l k where
  lt := Nat.lt_of_lt_of_le hk h.le
  reaches := h.of_le (Nat.le_of_lt hk)
  vain := h.vain k hk

theorem starts_iff_lt (hall : ∀ k < n, s.Starts l k) (hn : ¬ s.Starts l n) (k : Nat) :
    s.Starts l k ↔ k < n := by
  refine ⟨fun h => ?_, hall k⟩
  by_contra hk
  exact hn (h.of_le (Nat.le_of_not_lt hk))

/-- The warning of a step stands after the rounds before it, and the step's calls right after it. -/
theorem announced_rounds (s : SecureSocket) (hk : k < n) (hst : l[k]? = some st) :
    s.rounds (l.take k) ++ .record (warningOf st) :: (s.callsOf st.action).map .call <+:
      s.rounds (l.take n) := by
  rw [← stepRecord_eq]
  obtain ⟨t, ht⟩ : l.take (k + 1) <+: l.take n := List.take_prefix_take_left (Nat.succ_le_of_lt hk)
  rw [← ht, List.take_add_one, hst]
  simp [rounds]

end SecureSocket

/-- What ends a recovery of which `n` steps were started: the last of them is named where it brought
a session, and the whole ladder where it was climbed in vain. -/
def lastRecords (l : Ladder) (n : Nat) : Except Fault (Option Session) → List Record
  | .ok (some _) => (l.take n).getLast?.toList.map recoveryBy
  | .ok none => [failureOf l]
  | .error _ => []

theorem filter_level {rs : List Record} {lv : Level} (h : ∀ r ∈ rs, r.level = lv) (lv' : Level) :
    rs.filter (·.level = lv') = if lv = lv' then rs else [] := by
  split
  · next he => exact List.filter_eq_self.mpr fun r hr => decide_eq_true (by rw [h r hr, he])
  · next hne =>
    refine List.filter_eq_nil_iff.mpr fun r hr hd => hne ?_
    rw [← h r hr]
    exact of_decide_eq_true hd

theorem level_steps (l : Ladder) : ∀ r ∈ l.map warningOf, r.level = .warning := by
  intro r hr
  obtain ⟨st, -, rfl⟩ := List.mem_map.mp hr
  rfl

def lastLevel : Except Fault (Option Session) → Level
  | .ok none => .error
  | _ => .info

theorem level_lastRecords (l : Ladder) (n : Nat) (x : Except Fault (Option Session)) :
    ∀ r ∈ lastRecords l n x, r.level = lastLevel x := by
  intro r hr
  match x, hr with
  | .ok none, hr =>
    obtain rfl := List.mem_singleton.mp hr
    rfl
  | .ok (some _), hr =>
    obtain ⟨st, -, rfl⟩ := List.mem_map.mp hr
    rfl

theorem lastLevel_eq_error_iff : lastLevel x = .error ↔ x = .ok none := by
  match x with
  | .ok none => simp [lastLevel]
  | .ok (some _) => simp [lastLevel]
  | .error _ => simp [lastLevel]

theorem lastLevel_ne_warning : lastLevel x ≠ .warning := by
  unfold lastLevel
  split <;> nofun

/-- What a recovery that comes to `x` leaves on the session's logger: it starts `n` steps, each is
announced right before its calls, and how the climb ended comes last. -/
structure Recorded (s : SecureSocket) (l : Ladder) (x : Except Fault (Option Session))
    (es : List (Event SocketCall)) (n : Nat) : Prop where
  le : n ≤ l.length
  starts : ∀ k, s.Starts l k ↔ k < n
  session : recordsOn "session" es = (l.take n).map warningOf ++ lastRecords l n x
  announced : ∀ k st, k < n → l[k]? = some st →
    s.rounds (l.take k) ++ .record (warningOf st) :: (s.callsOf st.action).map .call <+: es
  all : x = .ok none → n = l.length

namespace Recorded

/-- What follows without a record of the session's changes nothing. -/
theorem append (h : Recorded s l x es n) {es' : List (Event SocketCall)}
    (hs : recordsOn "session" es' = []) : Recorded s l x (es ++ es') n where
  le := h.le
  starts := h.starts
  session := by rw [recordsOn_append, hs, List.append_nil, h.session]
  announced k st hk hst := (h.announced k st hk hst).trans (List.prefix_append es es')
  all := h.all

/-- The warnings are those of the steps. -/
theorem warnings (h : Recorded s l x es n) :
    (recordsOn "session" es).filter (·.level = .warning) = (l.take n).map warningOf := by
  rw [h.session, List.filter_append, filter_level (level_steps _),
    filter_level (level_lastRecords l n x), if_pos rfl, if_neg lastLevel_ne_warning,
    List.append_nil]

/-- Without a session nothing was recovered. -/
theorem infos (h : Recorded s l x es n) (hx : ∀ y, x ≠ .ok (some y)) :
    (recordsOn "session" es).filter (·.level = .info) = [] := by
  rw [h.session, List.filter_append, filter_level (level_steps _), if_neg nofun, List.nil_append]
  match x, hx with
  | .ok none, _ => rfl
  | .error _, _ => rfl
  | .ok (some y), hx => exact absurd rfl (hx y)

/-- Only a climb in vain is an error. -/
theorem errors (h : Recorded s l x es n) :
    (recordsOn "session" es).filter (·.level = .error) =
      if lastLevel x = .error then [failureOf l] else [] := by
  rw [h.session, List.filter_append, filter_level (level_steps _),
    filter_level (level_lastRecords l n x), if_neg nofun, List.nil_append]
  split
  · next he =>
    rw [lastLevel_eq_error_iff.mp he]
    rfl
  · rfl

end Recorded

theorem recordsOn_recovered (hk : k ≤ l.length) :
    recordsOn "session" (recovered l k) = (l.take k).getLast?.toList.map recoveryBy := by
  cases k with
  | zero => rfl
  | succ k =>
    have hl : ∀ st, (recoveryBy st).logger = loggerName "session" := fun _ => rfl
    have hlast : (l.take (k + 1)).getLast? = l[k]? := by
      rw [List.take_add_one, List.getElem?_eq_getElem hk, Option.toList_some,
        List.getLast?_concat]
    rw [recovered, hlast, recoveredRecord_eq]
    cases l[k]? with
    | none => rfl
    | some st => simp [hl]

theorem recordsOn_verifier_recovered (l : Ladder) (k : Nat) :
    recordsOn "verifier" (recovered l k) = [] := by
  cases k with
  | zero => rfl
  | succ k =>
    have hl : ∀ st, (recoveredRecord st).logger ≠ loggerName "verifier" := fun _ =>
      session_ne_verifier
    rw [recovered]
    cases l[k]? with
    | none => rfl
    | some st => simp [hl]

/-- Where a check decides the course, the steps before it were started. -/
theorem SecureSocket.Reaches.starts_iff (h : s.Reaches l n) (hn : ¬ Vain (s.answer n)) (k : Nat) :
    s.Starts l k ↔ k < n :=
  SecureSocket.starts_iff_lt (fun _ hk => h.starts hk) (fun hs => hn hs.vain) k

theorem Ascent.recorded (h : Ascent s l x es) : ∃ n, Recorded s l x (es ++ closing l x) n := by
  have hsession : (failureOf l).logger = loggerName "session" := rfl
  cases h with
  | found k y hr ha hy =>
    refine ⟨k, hr.le, hr.starts_iff (not_vain_of_session ha hy), ?_, ?_, ?_⟩
    · simp [recordsOn_rounds, recordsOn_recovered hr.le, closing, lastRecords]
    · intro j st hj hst
      simp only [List.append_assoc]
      exact (s.announced_rounds hj hst).trans (List.prefix_append _ _)
    · rintro ⟨⟩
  | refused k e hr ha =>
    refine ⟨k, hr.le, hr.starts_iff (not_vain_of_error ha), ?_, ?_, ?_⟩
    · simp [recordsOn_rounds, closing, lastRecords]
    · intro j st hj hst
      simp only [List.append_assoc]
      exact (s.announced_rounds hj hst).trans (List.prefix_append _ _)
    · rintro ⟨⟩
  | balked k st e hr hv hst hf =>
    -- the step that fails was started, and is the last one
    have hk : k < l.length := (List.getElem?_eq_some_iff.mp hst).1
    have hstart : s.Starts l k := ⟨hk, hr, hv⟩
    have hlog : (warningOf st).logger = loggerName "session" := rfl
    rw [stepRecord_eq]
    refine ⟨k + 1, hk, SecureSocket.starts_iff_lt (fun j hj => hstart.of_le (by omega)) ?_,
      ?_, ?_, ?_⟩
    · intro hs
      exact absurd hf (by simp [hs.reaches.fine k (by omega)])
    · rw [List.take_add_one, hst]
      simp [recordsOn_rounds, closing, lastRecords, hlog]
    · intro j st' hj hst'
      rcases Nat.lt_or_eq_of_le (Nat.le_of_lt_succ hj) with hlt | rfl
      · simp only [List.append_assoc]
        exact (s.announced_rounds hlt hst').trans (List.prefix_append _ _)
      · obtain rfl : st = st' := Option.some.inj (hst.symm.trans hst')
        exact List.prefix_append _ _
    · rintro ⟨⟩
  | exhausted hr hv =>
    refine ⟨l.length, Nat.le_refl _, ?_, ?_, ?_, fun _ => rfl⟩
    · exact SecureSocket.starts_iff_lt (fun _ hk => hr.starts hk) fun hs => Nat.lt_irrefl _ hs.lt
    · simp [recordsOn_rounds, closing, lastRecords, exhaustedRecord_eq, hsession]
    · intro j st hj hst
      have h := s.announced_rounds hj hst
      rw [List.take_length] at h
      exact h.trans (List.prefix_append _ _)

/-- A recovery leaves nothing on the verifier's logger. -/
theorem Ascent.recordsOn_verifier (h : Ascent s l x es) :
    recordsOn "verifier" (es ++ closing l x) = [] := by
  have hlog : ∀ st, (stepRecord st).logger = loggerName "session" := fun _ => rfl
  have hlast : (exhaustedRecord l).logger = loggerName "session" := rfl
  cases h with
  | found k y hr ha hy =>
    simp [recordsOn_verifier_rounds, recordsOn_verifier_recovered, closing]
  | refused k e hr ha => simp [recordsOn_verifier_rounds, closing]
  | balked k st e hr hv hst hf =>
    simp [recordsOn_verifier_rounds, closing, hlog, session_ne_verifier]
  | exhausted hr hv => simp [recordsOn_verifier_rounds, closing, hlast, session_ne_verifier]

/-! ## The judgement -/

/-- What is reported of a certificate that was judged: a veto, and then the verdict. -/
theorem recordsOn_records (subject host : String) :
    recordsOn "session" ((Verdict.records subject host).map .record) = [] ∧
      recordsOn "verifier" ((Verdict.records subject host).map .record) =
        [Verdict.record host (Verdict.ofSubject subject host)] := by
  have hveto : ∀ sub, loggerName "hostname" ≠ loggerName sub → ∀ cn,
      (Host.matchRecords cn).filter (·.logger = loggerName sub) = [] := by
    intro sub hne cn
    unfold Host.matchRecords Host.wildcardRecords
    split
    · have hlog : (Host.vetoRecord (Host.normalizeName cn).toList).logger = loggerName "hostname" :=
        rfl
      exact List.filter_cons_of_neg (by simpa [hlog] using hne)
    · rfl
  have hv := Verdict.logger_record host (Verdict.ofSubject subject host)
  simp only [recordsOn_map_record, Verdict.records]
  cases Cert.commonName? subject with
  | none => simp [hv, session_ne_verifier.symm]
  | some cn =>
    simp [hv, session_ne_verifier.symm, hveto "session" (by decide), hveto "verifier" (by decide)]

/-- The judgement is a fault, the verdict on a subject, or that no session was to be had. -/
theorem judge_cases (host : String) (r : Except Fault Session) :
    (∃ e, judge host r = .error e) ∨
      (∃ y subject, r = .ok y ∧
        judge host r = .ok (Verdict.ofSubject subject host, Verdict.records subject host)) ∨
      ∃ e u, r = .error e ∧ judge host r = .ok (lacking host u, []) := by
  cases r with
  | ok y =>
    have hj : judge host (.ok y) = verifyCertificate (leafOf y) (some host) := rfl
    rw [hj, verifyCertificate_some]
    cases (leafOf y).subject.render with
    | error e => exact .inl ⟨e, rfl⟩
    | ok subject => exact .inr (.inl ⟨y, subject, rfl, rfl⟩)
  | error e =>
    cases hl : e.lack? with
    | some u => exact .inr (.inr ⟨e, u, rfl, judge_of_lack hl host⟩)
    | none => exact .inl ⟨e, judge_of_not_lack hl host⟩

def told (host : String) : Except Fault Verdict → List Record
  | .ok w => if w.failure = some .sessionUnavailable then [] else [Verdict.record host w]
  | .error _ => []

theorem recordsOn_reports (host : String) (r : Except Fault Session) :
    recordsOn "session" (reports (judge host r)) = [] ∧
      recordsOn "verifier" (reports (judge host r)) = told host (Prod.fst <$> judge host r) := by
  rcases judge_cases host r with ⟨e, hj⟩ | ⟨y, subject, -, hj⟩ | ⟨e, u, -, hj⟩
  · rw [hj]
    exact ⟨rfl, rfl⟩
  · obtain ⟨hs, hv⟩ := recordsOn_records subject host
    rw [hj]
    refine ⟨hs, hv.trans ?_⟩
    exact (if_neg (Verdict.failure_ofSubject_ne_sessionUnavailable subject host)).symm
  · rw [hj]
    exact ⟨rfl, rfl⟩

theorem Ascent.recorded_verify (h : Ascent s l x es) (host : String) :
    ∃ n, Recorded s l x ((Candidate.socket s).verify l (some host)).trail n := by
  obtain ⟨n, hn⟩ := h.recorded
  rw [(h.verify host).2]
  exact ⟨n, hn.append (recordsOn_reports host _).1⟩

theorem Ascent.told_verify (h : Ascent s l x es) (host : String) :
    recordsOn "verifier" ((Candidate.socket s).verify l (some host)).trail =
      told host ((Candidate.socket s).verify l (some host)).outcome := by
  obtain ⟨hout, htrail⟩ := h.verify host
  rw [htrail, hout, recordsOn_append, h.recordsOn_verifier, (recordsOn_reports host _).2]
  rfl

/-- A verdict is about a certificate just where a session was obtained. -/
theorem Ascent.session_iff (h : Ascent s l x es) {host : String} {w : Verdict}
    (hw : ((Candidate.socket s).verify l (some host)).outcome = .ok w) :
    (∃ y, x = .ok (some y)) ↔ w.failure ≠ some .sessionUnavailable := by
  rw [(h.verify host).1] at hw
  rcases judge_cases host (conclude l x) with ⟨e, hj⟩ | ⟨y, subject, hy, hj⟩ | ⟨e, u, he, hj⟩
  · rw [hj] at hw
    cases hw
  · rw [hj] at hw
    cases hw
    obtain rfl := of_conclude_eq_ok hy
    exact ⟨fun _ => Verdict.failure_ofSubject_ne_sessionUnavailable subject host, fun _ => ⟨y, rfl⟩⟩
  · rw [hj] at hw
    cases hw
    refine ⟨?_, fun hne => absurd rfl hne⟩
    rintro ⟨y, rfl⟩
    cases he

/-- A climb in vain is a verdict. -/
theorem Ascent.verdict_of_vain (h : Ascent s l (.ok none) es) (host : String) :
    ((Candidate.socket s).verify l (some host)).outcome =
      .ok (lacking host (Session.exhausted l)) := by
  rw [(h.verify host).1, conclude, judge_of_lack rfl]
  rfl

theorem Ascent.vain_iff_exhausts (h : Ascent s l x es) : x = .ok none ↔ s.Exhausts l := by
  constructor
  · rintro rfl
    exact h.exhausts
  · intro hx
    exact (h.unique hx.ascent).1

example :
    recordsOn "session" ((Candidate.socket lateSocket).verify .default (some "late.test")).trail =
      [stepRecord .probe, stepRecord .handshake, recoveredRecord .handshake] := by
  cbv

end Session

end PeerCheck
