import PeerCheck.Proofs.Verification

/-!
# What becomes of the faults of a TLS socket

Every call on a TLS socket may raise, and what it raises is in the scripts: the call number `i` of
its kind meets `TlsSocket.raises s c i`. A fault ends the verification as it is, with no call after
it, unless it is a value fault of the certificate. Those are read as the lack of a certificate, and
a failed certificate check of the TLS library is one of them, though it is a system fault as well.
-/

namespace PeerCheck

def fault? {α : Type} : Except Fault α → Option Fault
  | .ok _ => none
  | .error e => some e

theorem fault?_eq_some_iff {α : Type} {r : Except Fault α} {e : Fault} :
    fault? r = some e ↔ r = .error e := by
  cases r with
  | ok a => simp [fault?]
  | error e' => simp [fault?]

def Event.call? {Call : Type} : Event Call → Option Call
  | .call c => some c
  | .record _ => none

namespace Session

open PeerCheck.Cert PeerCheck.Log

def calls (es : List (Event SocketCall)) : List SocketCall := es.filterMap Event.call?

@[simp] theorem calls_nil : calls [] = [] := rfl

@[simp] theorem calls_cons_call (c : SocketCall) (es : List (Event SocketCall)) :
    calls (.call c :: es) = c :: calls es := rfl

@[simp] theorem calls_cons_record (r : Record) (es : List (Event SocketCall)) :
    calls (.record r :: es) = calls es := rfl

@[simp] theorem calls_append (es es' : List (Event SocketCall)) :
    calls (es ++ es') = calls es ++ calls es' := List.filterMap_append

@[simp] theorem calls_map_call (cs : List SocketCall) : calls (cs.map .call) = cs := by
  induction cs with
  | nil => rfl
  | cons c cs ih => rw [List.map_cons, calls_cons_call, ih]

@[simp] theorem calls_map_record (rs : List Record) : calls (rs.map .record) = [] := by
  induction rs with
  | nil => rfl
  | cons r rs ih => rw [List.map_cons, calls_cons_record, ih]

@[simp] theorem calls_recovered (l : Ladder) (k : Nat) : calls (recovered l k) = [] := by
  cases k with
  | zero => rfl
  | succ k => cases h : l[k]? <;> simp [recovered, h]

@[simp] theorem calls_closing (l : Ladder) (x : Except Fault (Option Session)) :
    calls (closing l x) = [] := by
  match x with
  | .ok none => rfl
  | .ok (some _) => rfl
  | .error _ => rfl

@[simp] theorem calls_reports (j : Except Fault (Verdict × List Record)) :
    calls (reports j) = [] := by
  cases j with
  | ok p => exact calls_map_record p.2
  | error e => rfl

/-! ## The calls of a climb -/

/-- The calls of the checks before each step and of the steps themselves. -/
def SecureSocket.lead (s : SecureSocket) (l : Ladder) : List SocketCall :=
  l.flatMap fun st => s.ask :: s.callsOf st.action

theorem SecureSocket.calls_rounds (s : SecureSocket) (l : Ladder) :
    calls (s.rounds l) = s.lead l ++ [s.ask] := by
  induction l generalizing s with
  | nil => rfl
  | cons st l ih =>
    rw [SecureSocket.rounds_cons]
    simp [ih, SecureSocket.lead]

theorem SecureSocket.lead_take_succ {l : Ladder} {k : Nat} {st : Step} (s : SecureSocket)
    (h : l[k]? = some st) :
    s.lead (l.take (k + 1)) = s.lead (l.take k) ++ s.ask :: s.callsOf st.action := by
  unfold SecureSocket.lead
  rw [List.take_add_one, h, Option.toList_some, List.flatMap_append, List.flatMap_singleton]

namespace TlsSocket

def raises (s : TlsSocket) : SocketCall → Nat → Option Fault
  | .certificate, i => fault? (heard (s.certificate.nth i))
  | .chain, _ => s.chain.bind fun answer => fault? (heard answer)
  | .pending, i => (s.probe.nth i).map Subtype.val
  | .doHandshake, i => (s.handshake.nth i).map Subtype.val
  | .session, _ | .probe, _ | .handshake, _ | .close, _ => none

variable (s : TlsSocket) (l : Ladder)

theorem count_certificate_lead : ((SecureSocket.tls s).lead l).count .certificate = l.length := by
  induction l with
  | nil => rfl
  | cons st l ih =>
    have h : ((SecureSocket.tls s).callsOf st.action).count .certificate = 0 := by
      cases st.action <;> rfl
    simp only [SecureSocket.lead, List.flatMap_cons, List.count_append, List.length_cons] at ih ⊢
    rw [ih]
    simp [SecureSocket.ask, h]
    omega

/-- A kind of step is counted by its calls. -/
theorem count_lead {a : Action} {c : SocketCall} (hc : (SecureSocket.tls s).callsOf a = [c]) :
    ((SecureSocket.tls s).lead l).count c = l.countP (·.action = a) := by
  induction l with
  | nil => rfl
  | cons st l ih =>
    have hask : (SecureSocket.tls s).ask ≠ c := by
      rintro rfl
      cases a <;> cases hc
    have hone : ((SecureSocket.tls s).callsOf st.action).count c =
        if st.action = a then 1 else 0 := by
      by_cases h : st.action = a
      · rw [if_pos h, h, hc, List.count_singleton_self]
      · rw [if_neg h, List.count_eq_zero]
        cases hs : st.action <;> cases a <;> cases hc <;> first | exact absurd hs h | nofun
    simp only [SecureSocket.lead, List.flatMap_cons, List.count_append] at ih ⊢
    rw [ih, List.count_cons_of_ne hask, hone, List.countP_cons]
    simp only [decide_eq_true_eq]
    omega

/-- A step meets the fault its call meets, counted among the calls of its kind. -/
theorem raises_of_step {k : Nat} {st : Step} {c : SocketCall} (hst : l[k]? = some st)
    (hc : (SecureSocket.tls s).callsOf st.action = [c]) :
    s.raises c (((SecureSocket.tls s).lead (l.take k) ++ [SocketCall.certificate]).count c) =
      (SecureSocket.tls s).stepFault l k := by
  have hask : SocketCall.certificate ≠ c := by
    rintro rfl
    cases h : st.action <;> rw [h] at hc <;> cases hc
  rw [List.count_append, s.count_lead _ hc, List.count_eq_zero.mpr (by simpa using hask.symm),
    SecureSocket.stepFault, hst, Option.bind_some]
  cases h : st.action <;> rw [h] at hc <;> cases hc <;> rfl

end TlsSocket

/-! ## Calls without a fault -/

/-- The fault is one that a check takes for the lack of a certificate. -/
def ReadAsNone (c : SocketCall) (e : Fault) : Prop := c = .certificate ∧ e.isValue = true

/-- No call meets a fault, but for those read as the lack of a certificate. -/
def Calm (s : TlsSocket) (cs : List SocketCall) : Prop :=
  ∀ (earlier : List SocketCall) c later e, cs = earlier ++ c :: later →
    s.raises c (earlier.count c) = some e → ReadAsNone c e

variable {s : TlsSocket} {l : Ladder} {cs rest earlier later : List SocketCall} {c : SocketCall}
  {e : Fault}

theorem calm_nil : Calm s [] := by
  intro earlier c later e h
  simp at h

/-- After calm calls, a call that meets a fault is among the others. -/
theorem Calm.of_append (h : Calm s cs) (hs : cs ++ rest = earlier ++ c :: later)
    (hf : s.raises c (earlier.count c) = some e) (hn : ¬ ReadAsNone c e) :
    ∃ mid, earlier = cs ++ mid ∧ rest = mid ++ c :: later := by
  obtain ⟨mid, he, hr⟩ | ⟨mid, he, hr⟩ := List.append_eq_append_iff.mp hs
  · exact ⟨mid, he, hr⟩
  · cases mid with
    | nil =>
      rw [List.append_nil] at he
      exact ⟨[], by rw [List.append_nil, he], hr.symm⟩
    | cons d mid =>
      cases hr
      exact absurd (h earlier c mid e he hf) hn

theorem Calm.snoc (h : Calm s cs)
    (hc : ∀ e, s.raises c (cs.count c) = some e → ReadAsNone c e) : Calm s (cs ++ [c]) := by
  intro earlier d later e hs hf
  by_contra hn
  obtain ⟨mid, rfl, hr⟩ := h.of_append hs hf hn
  obtain ⟨rfl, hr⟩ | ⟨mid', rfl, hr⟩ := List.cons_eq_append_iff.mp hr
  · cases hr
    rw [List.append_nil] at hf
    exact hn (hc e hf)
  · simp at hr

/-- A check that raises nothing meets no fault of another kind. -/
theorem Calm.ask {k : Nat} (h : Calm s ((SecureSocket.tls s).lead (l.take k))) (hk : k ≤ l.length)
    {o : Option Session} (ho : (SecureSocket.tls s).answer k = .ok o) :
    Calm s ((SecureSocket.tls s).lead (l.take k) ++ [SocketCall.certificate]) := by
  refine h.snoc fun e hf => ⟨rfl, ?_⟩
  rw [s.count_certificate_lead, List.length_take_of_le hk] at hf
  have hn : heard (s.certificate.nth k) = .error e := fault?_eq_some_iff.mp hf
  obtain ⟨der, hd, -⟩ : ∃ der, heard (orYet (s.certificate.nth k)) = .ok der ∧ _ :=
    exists_of_bind_eq_ok ho
  rw [heard_orYet hn] at hd
  by_contra hv
  rw [if_neg hv] at hd
  cases hd

theorem SecureSocket.Reaches.of_le {s : SecureSocket} {k k' : Nat} (h : s.Reaches l k')
    (hk : k ≤ k') : s.Reaches l k where
  le := Nat.le_trans hk h.le
  vain i hi := h.vain i (Nat.lt_of_lt_of_le hi hk)
  fine i hi := h.fine i (Nat.lt_of_lt_of_le hi hk)

/-- The calls before a check that takes place meet no fault of another kind. -/
theorem calm_lead {k : Nat} (h : (SecureSocket.tls s).Reaches l k) :
    Calm s ((SecureSocket.tls s).lead (l.take k)) := by
  induction k with
  | zero => exact calm_nil
  | succ k ih =>
    have hk : k < l.length := h.le
    have hst : l[k]? = some l[k] := List.getElem?_eq_getElem hk
    obtain ⟨o, ho, -⟩ := h.vain k (Nat.lt_succ_self k)
    have hask := (ih (h.of_le (Nat.le_succ k))).ask (Nat.le_of_lt hk) ho
    rw [SecureSocket.lead_take_succ _ hst]
    have hstep : ∀ c, (SecureSocket.tls s).callsOf l[k].action = [c] →
        Calm s ((SecureSocket.tls s).lead (l.take k) ++ SocketCall.certificate :: [c]) := by
      intro c hc
      rw [← List.singleton_append, ← List.append_assoc]
      refine hask.snoc fun e hf => ?_
      rw [s.raises_of_step l hst hc, h.fine k (Nat.lt_succ_self k)] at hf
      cases hf
    cases ha : l[k].action with
    | nothing => exact hask
    | probeInput =>
      rw [ha] at hstep
      exact hstep .pending rfl
    | startHandshake =>
      rw [ha] at hstep
      exact hstep .doHandshake rfl

/-! ## A fault ends the recovery -/

variable {x : Except Fault (Option Session)} {es : List (Event SocketCall)} {k i : Nat}

theorem further_of_error (h : heard (s.certificate.nth k) = .error e) :
    (SecureSocket.tls s).further k = [] := by
  cases hc : s.certificate.nth k with
  | ok der =>
    rw [hc] at h
    cases h
  | error e' => simp only [SecureSocket.further, hc]

theorem answer_of_error (h : heard (s.certificate.nth k) = .error e) (hv : e.isValue = false) :
    (SecureSocket.tls s).answer k = .error e := by
  rw [SecureSocket.answer, heard_orYet h, if_neg (by rw [hv]; exact Bool.false_ne_true)]
  rfl

theorem answer_of_value_error (h : heard (s.certificate.nth k) = .error e)
    (hv : e.isValue = true) : (SecureSocket.tls s).answer k = .ok none := by
  rw [SecureSocket.answer, heard_orYet h, if_pos hv]
  rfl

/-- The chain is read where there is a certificate, and its fault is the outcome of the check. -/
theorem answer_of_chain_error (hfurther : (SecureSocket.tls s).further k ≠ [])
    {answer : Except SocketFault (List (List UInt8))} (h : s.chain = some answer)
    (he : heard answer = .error e) : (SecureSocket.tls s).answer k = .error e := by
  have hcert : ∃ b bs, s.certificate.nth k = .ok (some (b :: bs)) := by
    simp only [SecureSocket.further] at hfurther
    split at hfurther
    · next b bs hc => exact ⟨b, bs, hc⟩
    · exact absurd rfl hfurther
  obtain ⟨b, bs, hc⟩ := hcert
  have ht : s.toldChain = .error e := by
    simp only [TlsSocket.toldChain, h, he]
    rfl
  rw [SecureSocket.answer, hc]
  show (s.toldChain >>= _) = _
  rw [ht]
  rfl

theorem calm_further (h : Calm s (cs ++ [SocketCall.certificate])) {o : Option Session}
    (ho : (SecureSocket.tls s).answer k = .ok o) :
    Calm s (cs ++ [SocketCall.certificate] ++ (SecureSocket.tls s).further k) := by
  obtain hn | hc := (SecureSocket.tls s).further_cases k
  · rw [hn, List.append_nil]
    exact h
  · rw [hc]
    refine h.snoc fun e hf => ?_
    obtain ⟨a, ha, hae⟩ := Option.bind_eq_some_iff.mp hf
    have hne : (SecureSocket.tls s).further k ≠ [] := by rw [hc]; exact List.cons_ne_nil _ _
    rw [answer_of_chain_error hne ha (fault?_eq_some_iff.mp hae)] at ho
    cases ho

/-- The call of a check meets a fault. -/
theorem answer_of_ask (hk : k ≤ l.length)
    (hf : s.raises .certificate (((SecureSocket.tls s).lead (l.take k)).count .certificate) =
      some e)
    (hn : ¬ ReadAsNone .certificate e) :
    (SecureSocket.tls s).answer k = .error e ∧ (SecureSocket.tls s).further k = [] := by
  rw [s.count_certificate_lead, List.length_take_of_le hk] at hf
  have hnth : heard (s.certificate.nth k) = .error e := fault?_eq_some_iff.mp hf
  have hv : e.isValue = false := Bool.eq_false_iff.mpr fun hv => hn ⟨rfl, hv⟩
  exact ⟨answer_of_error hnth hv, further_of_error hnth⟩

/-- The further call of a check meets a fault. -/
theorem answer_of_further {mid : List SocketCall}
    (hs : (SecureSocket.tls s).further k = mid ++ c :: later)
    (hf : s.raises c i = some e) : (SecureSocket.tls s).answer k = .error e ∧ later = [] := by
  have hne : (SecureSocket.tls s).further k ≠ [] := by
    rw [hs]
    exact List.append_ne_nil_of_right_ne_nil mid (List.cons_ne_nil c later)
  have hone := ((SecureSocket.tls s).further_cases k).resolve_left hne
  rw [hs, List.append_eq_singleton_iff] at hone
  obtain ⟨rfl, hc⟩ | ⟨-, hc⟩ := hone
  · cases hc
    obtain ⟨a, ha, hae⟩ := Option.bind_eq_some_iff.mp hf
    exact ⟨answer_of_chain_error hne ha (fault?_eq_some_iff.mp hae), rfl⟩
  · cases hc

/-- A fault met in the course of a recovery ends it as it is, if it is not taken for the lack of a
certificate. -/
theorem Ascent.of_fault (h : Ascent (.tls s) l x es) (hc : calls es = earlier ++ c :: later)
    (hf : s.raises c (earlier.count c) = some e) (hn : ¬ ReadAsNone c e) :
    x = .error e ∧ later = [] := by
  cases h with
  | found k y hr ha hy =>
    have hcalm := calm_further ((calm_lead hr).ask hr.le ha) ha
    rw [calls_append, calls_append, SecureSocket.calls_rounds, calls_map_call, calls_recovered,
      List.append_nil] at hc
    exact absurd (hcalm _ _ _ _ hc hf) hn
  | refused k e' hr ha =>
    -- The check itself makes one call or two, and the fault is that of the last.
    rw [calls_append, SecureSocket.calls_rounds, calls_map_call, List.append_assoc] at hc
    obtain ⟨mid, rfl, hmid⟩ := (calm_lead hr).of_append hc hf hn
    have hans : (SecureSocket.tls s).answer k = .error e ∧ later = [] := by
      cases mid with
      | nil =>
        cases hmid
        rw [List.append_nil] at hf
        exact answer_of_ask hr.le hf hn
      | cons d mid =>
        obtain ⟨-, hmid⟩ := List.cons.inj hmid
        exact answer_of_further hmid hf
    rw [ha] at hans
    obtain ⟨he, hl⟩ := hans
    cases he
    exact ⟨rfl, hl⟩
  | balked k st e' hr hv hst hf' =>
    obtain ⟨o, ho, -⟩ := hv
    rw [calls_append, SecureSocket.calls_rounds, calls_cons_record, calls_map_call] at hc
    obtain ⟨mid, rfl, hmid⟩ := ((calm_lead hr).ask hr.le ho).of_append hc hf hn
    obtain ⟨rfl, rfl⟩ : mid = [] ∧ later = [] := by
      cases ha : st.action <;> rw [ha] at hmid <;> cases mid <;> simp_all [SecureSocket.callsOf]
    rw [List.append_nil, s.raises_of_step l hst hmid, hf'] at hf
    cases hf
    exact ⟨rfl, rfl⟩
  | exhausted hr hv =>
    obtain ⟨o, ho, -⟩ := hv
    have hcalm := (calm_lead hr).ask hr.le ho
    rw [List.take_length] at hcalm
    rw [SecureSocket.calls_rounds] at hc
    exact absurd (hcalm _ _ _ _ hc hf) hn

/-! ## The lack of a certificate goes on -/

theorem of_last_ask (h : cs ++ [SocketCall.certificate] ++ (SecureSocket.tls s).further k =
    earlier ++ [SocketCall.certificate]) : earlier = cs := by
  obtain hn | hc := (SecureSocket.tls s).further_cases k
  · rw [hn, List.append_nil] at h
    exact (List.append_cancel_right h).symm
  · rw [hc] at h
    have hl := congrArg List.getLast? h
    simp at hl

theorem answer_of_last_ask (hk : k ≤ l.length)
    (hc : (SecureSocket.tls s).lead (l.take k) ++ [SocketCall.certificate] ++
      (SecureSocket.tls s).further k = earlier ++ [SocketCall.certificate])
    (hf : s.raises .certificate (earlier.count .certificate) = some e) (hv : e.isValue = true) :
    (SecureSocket.tls s).answer k = .ok none := by
  rw [of_last_ask hc, s.count_certificate_lead, List.length_take_of_le hk] at hf
  exact answer_of_value_error (fault?_eq_some_iff.mp hf) hv

/-- A recovery whose last call meets a fault read as the lack of a certificate is in vain. -/
theorem Ascent.of_last_ask (h : Ascent (.tls s) l x es)
    (hc : calls es = earlier ++ [SocketCall.certificate])
    (hf : s.raises .certificate (earlier.count .certificate) = some e) (hv : e.isValue = true) :
    x = .ok none := by
  cases h with
  | found k y hr ha hy =>
    rw [calls_append, calls_append, SecureSocket.calls_rounds, calls_map_call, calls_recovered,
      List.append_nil] at hc
    rw [answer_of_last_ask hr.le hc hf hv] at ha
    cases ha
  | refused k e' hr ha =>
    rw [calls_append, SecureSocket.calls_rounds, calls_map_call] at hc
    rw [answer_of_last_ask hr.le hc hf hv] at ha
    cases ha
  | balked k st e' hr hv' hst hf' =>
    rw [calls_append, SecureSocket.calls_rounds, calls_cons_record, calls_map_call] at hc
    have hl := congrArg List.getLast? hc
    rw [SecureSocket.stepFault, hst, Option.bind_some] at hf'
    cases ha : st.action with
    | nothing =>
      rw [ha] at hf'
      cases hf'
    | probeInput | startHandshake =>
      rw [ha] at hl
      simp [SecureSocket.callsOf] at hl
  | exhausted hr hv' => rfl

theorem lack?_of_isOs (h : e.isOs = true) : e.lack? = none := by
  cases e with
  | unverified u => cases h
  | _ => rfl

/-! ## Value faults of the certificate count as none -/

/-- The socket with no certificate wherever the certificate meets a value fault. -/
def TlsSocket.hushed (s : TlsSocket) : TlsSocket :=
  { s with certificate := s.certificate.map orYet }

theorem orYet_orYet (r : Except SocketFault (Option (List UInt8))) :
    orYet (orYet r) = orYet r := by
  cases r with
  | ok der => rfl
  | error e =>
    cases hv : e.val.isValue with
    | true => rw [orYet, if_pos hv, orYet]
    | false =>
      have hn : ¬ e.val.isValue = true := by
        rw [hv]
        exact Bool.false_ne_true
      rw [orYet, if_neg hn, orYet, if_neg hn]

theorem alike_hushed (s : TlsSocket) : Alike (.tls s) (.tls s.hushed) where
  answer i := by
    show _ = heard (orYet ((s.certificate.map orYet).nth i)) >>= _
    rw [Script.nth_map, orYet_orYet]
    rfl
  objection a i := by cases a <;> rfl
  ask := rfl
  further i := by
    simp only [SecureSocket.further, TlsSocket.hushed, Script.nth_map]
    cases s.certificate.nth i with
    | ok der => rfl
    | error e => cases hv : e.val.isValue <;> simp [orYet, hv]
  callsOf a := by cases a <;> rfl

/-! ## What a verification lets through -/

theorem verify_of_fault (s : TlsSocket) (l : Ladder) (host : String)
    (hc : calls ((Candidate.socket (.tls s)).verify l (some host)).trail = earlier ++ c :: later)
    (hf : s.raises c (earlier.count c) = some e) (ho : e.isOs = true) :
    (((Candidate.socket (.tls s)).verify l (some host)).outcome = .error e ∧ later = []) ↔
      ¬ ReadAsNone c e := by
  obtain ⟨es, x, s', -, h⟩ := resolve_ascends (.tls s) l
  obtain ⟨hout, htrail⟩ := h.verify host
  rw [htrail, calls_append, calls_append, calls_closing, calls_reports, List.append_nil,
    List.append_nil] at hc
  rw [hout]
  constructor
  · rintro ⟨he, rfl⟩ ⟨rfl, hv⟩
    obtain rfl := h.of_last_ask hc hf hv
    rw [conclude, judge_of_lack rfl] at he
    cases he
  · intro hn
    obtain ⟨rfl, rfl⟩ := h.of_fault hc hf hn
    rw [conclude, judge_of_not_lack (lack?_of_isOs ho)]
    exact ⟨rfl, rfl⟩

/-- A system fault of any call of a verification is its outcome, and the call its last, unless the
fault is a value fault of the certificate as well; those are all read as no certificate. -/
theorem verify_raises_iff (s : TlsSocket) (l : Ladder) (host : Option String) :
    let v := (Candidate.socket (.tls s)).verify l host
    let u := (Candidate.socket (.tls s.hushed)).verify l host
    (∀ (earlier : List SocketCall) c later e, calls v.trail = earlier ++ c :: later →
      s.raises c (earlier.count c) = some e → e.isOs = true →
        ((v.outcome = .error e ∧ later = []) ↔ ¬ (c = .certificate ∧ e.isValue = true))) ∧
    v.outcome = u.outcome ∧ v.trail = u.trail := by
  intro v u
  cases host with
  | none =>
    refine ⟨fun earlier c later e hc => ?_, rfl, rfl⟩
    exact absurd hc.symm (List.append_ne_nil_of_right_ne_nil earlier (List.cons_ne_nil c later))
  | some host =>
    refine ⟨fun earlier c later e hc hf ho => verify_of_fault s l host hc hf ho, ?_⟩
    obtain ⟨es, x, s', -, h⟩ := resolve_ascends (.tls s) l
    obtain ⟨hv, ht⟩ := h.verify host
    obtain ⟨hv', ht'⟩ := ((alike_hushed s).ascent h).verify host
    exact ⟨hv.trans hv'.symm, ht.trans ht'.symm⟩

/-- The peer goes away during the handshake. -/
def droppedSocket : TlsSocket where
  certificate := ⟨.ok none, []⟩
  handshake := ⟨some ⟨.outside .connectionReset "reset by peer", rfl⟩, []⟩

/-- The library finds the peer's certificate wanting. -/
def rejectedSocket : TlsSocket where
  certificate := ⟨.error ⟨.outside .tlsVerification "certificate verify failed", rfl⟩, []⟩

/-- The lost connection is passed on; the rejected certificate is not. -/
theorem droppedSocket_raises :
    let v := (Candidate.socket (.tls droppedSocket)).verify .default (some "drop.test")
    let w := (Candidate.socket (.tls rejectedSocket)).verify [] (some "drop.test")
    calls v.trail = [.certificate, .pending, .certificate, .doHandshake] ∧
      v.outcome = .error (.outside .connectionReset "reset by peer") ∧
      calls w.trail = [.certificate] ∧
      w.outcome ≠ .error (.outside .tlsVerification "certificate verify failed") := by
  intro v w
  have hv : calls v.trail =
      [SocketCall.certificate, .pending, .certificate] ++ SocketCall.doHandshake :: [] := by cbv
  have hw : calls w.trail = [] ++ SocketCall.certificate :: [] := by cbv
  obtain ⟨hdrop, -⟩ := verify_raises_iff droppedSocket .default (some "drop.test")
  obtain ⟨hreject, -⟩ := verify_raises_iff rejectedSocket [] (some "drop.test")
  refine ⟨hv, ((hdrop _ _ _ _ hv rfl rfl).mpr (by decide)).1, hw, fun he => ?_⟩
  exact (hreject _ _ _ _ hw rfl rfl).mp ⟨he, rfl⟩ ⟨rfl, rfl⟩

end Session

end PeerCheck
