import PeerCheck.Proofs.Cert.Fault
import PeerCheck.Proofs.Factory.Handover
import PeerCheck.Proofs.SocketFaults

/-!
# The rest of the chain

A verdict is reached on the first certificate of a chain. The others are read in with it, and so a
later element that is no certificate makes the session fail, though nothing would be made of it.
Where all of them can be read in, or the chain is not asked for, they make no difference
(`verify_reads_leaf`).
-/

namespace PeerCheck.Session

open PeerCheck.Cert PeerCheck.Log

/-! ## Sockets that differ after the leaf -/

namespace TlsSocket

/-- The sockets have the same scripts, but for what their chains hold after the first element. -/
structure SharesLeaf (s t : TlsSocket) : Prop where
  scripts : t = { s with chain := t.chain }
  leaf : s.chain.map (Except.map List.head?) = t.chain.map (Except.map List.head?)

/-- The fault of the first element that cannot be read in, where it is not the first of all. -/
def laterFault (s : TlsSocket) : Option Fault :=
  match s.chain with
  | some (.ok (der :: ders)) =>
    match Certificate.ofDer der with
    | .ok _ => fault? (ders.mapM Certificate.ofDer)
    | .error _ => none
  | _ => none

variable {s t : TlsSocket} {e : Fault}

/-- The chains are the same, or begin with the same element. -/
theorem SharesLeaf.chain_cases (h : s.SharesLeaf t) : s.chain = t.chain ∨
    ∃ der ders ders', s.chain = some (.ok (der :: ders)) ∧ t.chain = some (.ok (der :: ders')) := by
  have hleaf := h.leaf
  cases hs : s.chain with
  | none => cases ht : t.chain <;> simp_all
  | some r =>
    cases ht : t.chain with
    | none => simp_all
    | some r' =>
      rw [hs, ht] at hleaf
      cases r with
      | error e => cases r' <;> simp_all [Except.map]
      | ok ders =>
        cases r' with
        | error e => simp_all [Except.map]
        | ok ders' =>
          have hhead : ders.head? = ders'.head? := Except.ok.inj (Option.some.inj hleaf)
          cases ders with
          | nil =>
            obtain rfl : ders' = [] := List.head?_eq_none_iff.mp hhead.symm
            exact .inl rfl
          | cons der ders =>
            obtain ⟨ders', rfl⟩ := List.head?_eq_some_iff.mp hhead.symm
            exact .inr ⟨der, ders, ders', rfl, rfl⟩

theorem lack?_of_laterFault (h : s.laterFault = some e) : e.lack? = none := by
  unfold laterFault at h
  split at h
  · split at h
    · obtain ⟨der, -, hd⟩ := exists_of_mapM_eq_error (fault?_eq_some_iff.mp h)
      exact (isPlain_of_ofDer hd).lack?_eq_none
    · cases h
  · cases h

/-- A later element that cannot be read in spoils the chain. -/
theorem toldChain_of_laterFault (h : s.laterFault = some e) : s.toldChain = .error e := by
  unfold laterFault at h
  split at h
  · next der ders hc =>
    split at h
    · next c hd =>
      rw [toldChain_of_chain hc, List.mapM_cons, hd, fault?_eq_some_iff.mp h]
      rfl
    · cases h
  · cases h

/-- Chains that begin alike and have no fault after that are read in alike, up to the first. -/
theorem SharesLeaf.toldChain_head (h : s.SharesLeaf t) (hs : s.laterFault = none)
    (ht : t.laterFault = none) :
    s.toldChain.map List.head? = t.toldChain.map List.head? := by
  obtain hc | ⟨der, ders, ders', hc, hc'⟩ := h.chain_cases
  · rw [toldChain, hc, toldChain]
  · simp only [laterFault, hc, hc'] at hs ht
    rw [toldChain_of_chain hc, toldChain_of_chain hc', List.mapM_cons, List.mapM_cons]
    cases hd : Certificate.ofDer der with
    | error e => rfl
    | ok c =>
      rw [hd] at hs ht
      cases hr : ders.mapM Certificate.ofDer with
      | error e => simp [hr, fault?] at hs
      | ok cs =>
        cases hr' : ders'.mapM Certificate.ofDer with
        | error e => simp [hr', fault?] at ht
        | ok cs' => rfl

end TlsSocket

/-! ## What a verdict sees of a session -/

/-- Of a check, what a verdict is reached on: the certificate of the peer itself. -/
def seen (r : Except Fault (Option Session)) : Except Fault (Option (Option Certificate)) :=
  r.map (Option.map leaf?)

section Seen

variable {s t : TlsSocket} {r r' : Except Fault (Option Session)} {e : Fault} {i k : Nat}

/-- Of the chain that is told a session shows its first certificate, if there is one. -/
theorem seen_sessionWith_cons (s : TlsSocket) (b : UInt8) (bs : List UInt8) :
    seen (s.sessionWith (some (b :: bs))) = s.toldChain.map List.head? >>= fun first =>
      first.elim (Certificate.ofDer (b :: bs)) .ok >>= fun leaf =>
        heard s.cipher >>= fun _ => heard s.version >>= fun _ => .ok (some (some leaf)) := by
  rw [TlsSocket.sessionWith_cons]
  cases s.toldChain with
  | error e => rfl
  | ok told =>
    cases told with
    | nil =>
      cases Certificate.ofDer (b :: bs) with
      | error e => rfl
      | ok leaf => cases s.cipher <;> cases s.version <;> rfl
    | cons leaf told => cases s.cipher <;> cases s.version <;> rfl

theorem seen_sessionWith (h : s.SharesLeaf t) (hs : s.laterFault = none)
    (ht : t.laterFault = none) (der : Option (List UInt8)) :
    seen (s.sessionWith der) = seen (t.sessionWith der) := by
  have hcipher : t.cipher = s.cipher := by rw [h.scripts]
  have hversion : t.version = s.version := by rw [h.scripts]
  match der with
  | none => rfl
  | some [] => rfl
  | some (b :: bs) =>
    rw [seen_sessionWith_cons, seen_sessionWith_cons, h.toldChain_head hs ht, hcipher, hversion]

theorem seen_answer (h : s.SharesLeaf t) (hs : s.laterFault = none) (ht : t.laterFault = none)
    (i : Nat) : seen ((SecureSocket.tls s).answer i) = seen ((SecureSocket.tls t).answer i) := by
  have hcert : t.certificate = s.certificate := by rw [h.scripts]
  simp only [SecureSocket.answer, hcert]
  cases heard (orYet (s.certificate.nth i)) with
  | error e => rfl
  | ok der => exact seen_sessionWith h hs ht der

/-- A check that reads the chain fails where a later element cannot be read in. -/
theorem answer_of_laterFault (h : s.laterFault = some e)
    (hf : (SecureSocket.tls s).further i ≠ []) : (SecureSocket.tls s).answer i = .error e := by
  simp only [SecureSocket.further] at hf
  split at hf
  · next b bs hc =>
    rw [SecureSocket.answer, hc]
    show (s.toldChain >>= _) = _
    rw [TlsSocket.toldChain_of_laterFault h]
    rfl
  · exact absurd rfl hf

/-- What comes of a check after all is judged by what is seen of it. -/
theorem judge_eq_of_seen (h : seen r = seen r') (l : Ladder) (host : String) :
    judge host (conclude l r) = judge host (conclude l r') := by
  match r, r' with
  | .error e, .error e' =>
    cases h
    rfl
  | .ok none, .ok none => rfl
  | .ok (some x), .ok (some y) =>
    have hleaf : leaf? x = leaf? y := Option.some.inj (Except.ok.inj h)
    simp only [conclude, judge, leafOf, hleaf]

end Seen

/-! ## Twins -/

/-- Sockets that answer alike, checks that read the chain apart. -/
structure Twins (s t : SecureSocket) : Prop where
  answer : ∀ i, s.further i = [] → s.answer i = t.answer i
  objection : ∀ a i, s.objection a i = t.objection a i
  ask : s.ask = t.ask
  further : ∀ i, s.further i = t.further i
  callsOf : ∀ a, s.callsOf a = t.callsOf a

/-- What happens after a check that decides. -/
def afterCheck (l : Ladder) (k : Nat) : Except Fault (Option Session) → List (Event SocketCall)
  | .ok _ => recovered l k
  | .error _ => []

variable {s t : SecureSocket} {l : Ladder} {x x' : Except Fault (Option Session)}
  {es es' : List (Event SocketCall)} {k : Nat}

/-- The course that a check decides which is not in vain. -/
theorem Ascent.decided (hr : s.Reaches l k) (hn : ¬ Vain (s.answer k)) :
    Ascent s l (s.answer k)
      (s.rounds (l.take k) ++ (s.further k).map .call ++ afterCheck l k (s.answer k)) := by
  cases ha : s.answer k with
  | error e =>
    rw [afterCheck, List.append_nil]
    exact .refused k e hr ha
  | ok o =>
    cases hu : usable o with
    | none => exact absurd ⟨o, ha, hu⟩ hn
    | some y =>
      obtain ⟨rfl, hy⟩ := of_usable hu
      exact .found k y hr ha hy

theorem chain_notMem_callsOf (s : TlsSocket) (a : Action) :
    .chain ∉ (SecureSocket.tls s).callsOf a := by
  cases a <;> simp [SecureSocket.callsOf]

theorem chain_notMem_rounds (s : TlsSocket) (l : Ladder) :
    .chain ∉ calls ((SecureSocket.tls s).rounds l) := by
  rw [SecureSocket.calls_rounds]
  simp [SecureSocket.lead, SecureSocket.ask, chain_notMem_callsOf]

namespace Twins

theorem vain {i : Nat} (h : Twins s t) (hv : Vain (s.answer i)) : Vain (t.answer i) :=
  h.answer i (SecureSocket.further_of_vain hv) ▸ hv

theorem stepFault (h : Twins s t) (l : Ladder) (k : Nat) : s.stepFault l k = t.stepFault l k := by
  simp only [SecureSocket.stepFault, h.objection]

theorem rounds (h : Twins s t) (l : Ladder) : s.rounds l = t.rounds l := by
  simp only [SecureSocket.rounds, h.ask, h.callsOf]

theorem reaches (h : Twins s t) (hr : s.Reaches l k) : t.Reaches l k where
  le := hr.le
  vain i hi := h.vain (hr.vain i hi)
  fine i hi := h.stepFault l i ▸ hr.fine i hi

/-- A check that decides the course of one twin and reads no chain decides that of the other. -/
theorem decided (h : Twins s t) (hr : s.Reaches l k) (hn : ¬ Vain (s.answer k))
    (hf : s.further k = []) :
    Ascent t l (s.answer k) (s.rounds (l.take k) ++ afterCheck l k (s.answer k)) := by
  have ha := h.answer k hf
  have hd := Ascent.decided (h.reaches hr) (ha ▸ hn)
  rwa [← h.further, hf, List.map_nil, List.append_nil, ← h.rounds, ← ha] at hd

end Twins

/-- Check number `k` decides the course, and it reads the chain. -/
structure ReadsChain (s : SecureSocket) (l : Ladder) (x : Except Fault (Option Session))
    (es : List (Event SocketCall)) (k : Nat) : Prop where
  reads : s.further k = [.chain]
  outcome : x = s.answer k
  trail : es = s.rounds (l.take k) ++ [.call .chain] ++ afterCheck l k (s.answer k)

theorem calls_afterCheck (l : Ladder) (k : Nat) (r : Except Fault (Option Session)) :
    calls (afterCheck l k r) = [] := by
  cases r with
  | ok o => exact calls_recovered l k
  | error e => rfl

/-- A course that reads no chain is that of a twin too. -/
theorem Ascent.twin_or_reads {s t : TlsSocket} (h : Twins (.tls s) (.tls t))
    (hs : Ascent (.tls s) l x es) :
    (Ascent (.tls t) l x es ∧ .chain ∉ calls es) ∨
      ∃ k, (SecureSocket.tls s).Reaches l k ∧ ReadsChain (.tls s) l x es k := by
  -- where a check decides, all hangs on whether it reads the chain
  have hdecided : ∀ k, (SecureSocket.tls s).Reaches l k → ¬ Vain ((SecureSocket.tls s).answer k) →
      x = (SecureSocket.tls s).answer k →
      (Ascent (.tls t) l x es ∧ .chain ∉ calls es) ∨
        ∃ k, (SecureSocket.tls s).Reaches l k ∧ ReadsChain (.tls s) l x es k := by
    rintro k hr hn rfl
    have hes := (hs.unique (Ascent.decided hr hn)).2
    obtain hf | hf := (SecureSocket.tls s).further_cases k
    · rw [hf, List.map_nil, List.append_nil] at hes
      refine .inl ⟨hes ▸ h.decided hr hn hf, ?_⟩
      rw [hes, calls_append, calls_afterCheck, List.append_nil]
      exact chain_notMem_rounds s _
    · rw [hf] at hes
      exact .inr ⟨k, hr, hf, rfl, hes⟩
  cases hs with
  | found k y hr ha hy => exact hdecided k hr (not_vain_of_session ha hy) ha.symm
  | refused k e hr ha => exact hdecided k hr (not_vain_of_error ha) ha.symm
  | balked k st e hr hv hst hf =>
    have ht := Ascent.balked k st e (h.reaches hr) (h.vain hv) hst (h.stepFault l k ▸ hf)
    rw [← h.rounds, ← h.callsOf] at ht
    refine .inl ⟨ht, ?_⟩
    rw [calls_append, calls_cons_record, calls_map_call, List.mem_append, not_or]
    exact ⟨chain_notMem_rounds s _, chain_notMem_callsOf s _⟩
  | exhausted hr hv =>
    have ht := Ascent.exhausted (h.reaches hr) (h.vain hv)
    rw [← h.rounds] at ht
    exact .inl ⟨ht, chain_notMem_rounds s l⟩

/-- Twins take the same course, or both courses are decided by one check that reads the chain. -/
theorem Twins.courses {s t : TlsSocket} (h : Twins (.tls s) (.tls t))
    (hs : Ascent (.tls s) l x es) (ht : Ascent (.tls t) l x' es') :
    (x' = x ∧ es' = es ∧ .chain ∉ calls es) ∨
      ∃ k, ReadsChain (.tls s) l x es k ∧ ReadsChain (.tls t) l x' es' k := by
  obtain ⟨hst, hc⟩ | ⟨k, hr, hk⟩ := hs.twin_or_reads h
  · obtain ⟨rfl, rfl⟩ := ht.unique hst
    exact .inl ⟨rfl, rfl, hc⟩
  · have hk' : (SecureSocket.tls t).further k = [.chain] := h.further k ▸ hk.reads
    have hn : ¬ Vain ((SecureSocket.tls t).answer k) := by
      intro hv
      rw [SecureSocket.further_of_vain hv] at hk'
      cases hk'
    obtain ⟨rfl, rfl⟩ := ht.unique (Ascent.decided (h.reaches hr) hn)
    rw [hk']
    exact .inr ⟨k, hk, hk', rfl, rfl⟩

namespace TlsSocket

variable {s t : TlsSocket} {e : Fault}

theorem SharesLeaf.further (h : s.SharesLeaf t) (i : Nat) :
    (SecureSocket.tls s).further i = (SecureSocket.tls t).further i := by
  have hcert : t.certificate = s.certificate := by rw [h.scripts]
  have hchain : t.chainCalls = s.chainCalls := by
    obtain hc | ⟨_, _, _, hc, hc'⟩ := h.chain_cases
    · rw [chainCalls, chainCalls, hc]
    · rw [chainCalls, chainCalls, hc, hc']
      rfl
  simp only [SecureSocket.further, hcert, hchain]

/-- Without its chain a check comes to the same. -/
theorem SharesLeaf.answer (h : s.SharesLeaf t) {i : Nat}
    (hf : (SecureSocket.tls s).further i = []) :
    (SecureSocket.tls s).answer i = (SecureSocket.tls t).answer i := by
  have hcert : t.certificate = s.certificate := by rw [h.scripts]
  obtain hc | ⟨_, _, _, hc, -⟩ := h.chain_cases
  · have hst : t = s := by
      rw [h.scripts, ← hc]
    rw [hst]
  · -- there is a chain, so it is the certificate that is missing
    simp only [SecureSocket.further, chainCalls, hc] at hf
    simp only [SecureSocket.answer, hcert]
    cases hn : s.certificate.nth i with
    | error e =>
      simp only [orYet]
      split <;> rfl
    | ok der =>
      rw [hn] at hf
      cases der with
      | none => rfl
      | some der =>
        cases der with
        | nil => rfl
        | cons b bs => cases hf

theorem SharesLeaf.twins (h : s.SharesLeaf t) : Twins (.tls s) (.tls t) where
  answer _ hf := h.answer hf
  objection a i := by
    rw [h.scripts]
    cases a <;> rfl
  ask := rfl
  further := h.further
  callsOf a := by cases a <;> rfl

end TlsSocket

/-! ## The verdict -/

section Verdict

variable {s t : TlsSocket} {x : Except Fault (Option Session)} {es : List (Event SocketCall)}
  {e : Fault} {k : Nat}

theorem ReadsChain.chain_mem {s : SecureSocket} (h : ReadsChain s l x es k) :
    .chain ∈ calls es := by
  rw [h.trail, calls_append, calls_append]
  simp

/-- Where a later element cannot be read in, its fault is the outcome. -/
theorem ReadsChain.of_laterFault (h : ReadsChain (.tls s) l x es k)
    (he : s.laterFault = some e) :
    x = .error e ∧ es = (SecureSocket.tls s).rounds (l.take k) ++ [.call .chain] := by
  have ha : (SecureSocket.tls s).answer k = .error e :=
    answer_of_laterFault he (by rw [h.reads]; exact List.cons_ne_nil _ _)
  refine ⟨h.outcome.trans ha, ?_⟩
  rw [h.trail, ha, afterCheck, List.append_nil]

theorem afterCheck_eq_of_seen {r r' : Except Fault (Option Session)} (h : seen r = seen r') :
    afterCheck l k r = afterCheck l k r' := by
  match r, r' with
  | .error _, .error _ => rfl
  | .ok _, .ok _ => rfl

theorem closing_eq_of_seen {r r' : Except Fault (Option Session)} (h : seen r = seen r') :
    closing l r = closing l r' := by
  match r, r' with
  | .error _, .error _ => rfl
  | .ok none, .ok none => rfl
  | .ok (some _), .ok (some _) => rfl

/-- A verdict is reached on the first element of the chain alone, if the others can be read in. -/
theorem verify_reads_leaf (s t : TlsSocket) (h : s.SharesLeaf t) (l : Ladder)
    (host : Option String) :
    let v := (Candidate.socket (.tls s)).verify l host
    let u := (Candidate.socket (.tls t)).verify l host
    calls v.trail = calls u.trail ∧
      (.chain ∉ calls v.trail ∨ s.laterFault = none ∧ t.laterFault = none →
        v.outcome = u.outcome ∧ v.trail = u.trail) ∧
      ∀ e, .chain ∈ calls v.trail → s.laterFault = some e →
        v.outcome = .error e ∧ v.trail <+: u.trail ∧ v.trail.getLast? = some (.call .chain) := by
  cases host with
  | none => exact ⟨rfl, fun _ => ⟨rfl, rfl⟩, fun e hc => by cases hc⟩
  | some host =>
    obtain ⟨es, x, -, -, hs⟩ := resolve_ascends (.tls s) l
    obtain ⟨es', x', -, -, ht⟩ := resolve_ascends (.tls t) l
    obtain ⟨hv, hvt⟩ := hs.verify host
    obtain ⟨hu, hut⟩ := ht.verify host
    intro v u
    have hcalls : calls v.trail = calls es := by
      rw [hvt]
      simp
    have hcalls' : calls u.trail = calls es' := by
      rw [hut]
      simp
    rw [hcalls, hcalls', hv, hu, hvt, hut]
    obtain ⟨rfl, rfl, hc⟩ | ⟨k, hk, hk'⟩ := h.twins.courses hs ht
    · exact ⟨rfl, fun _ => ⟨rfl, rfl⟩, fun e hc' => absurd hc' hc⟩
    · have hrounds := h.twins.rounds (l.take k)
      refine ⟨?_, ?_, ?_⟩
      · rw [hk.trail, hk'.trail, ← hrounds]
        simp [calls_afterCheck]
      · rintro (hc | ⟨hns, hnt⟩)
        · exact absurd hk.chain_mem hc
        · have hseen : seen x = seen x' := by
            rw [hk.outcome, hk'.outcome]
            exact seen_answer h hns hnt k
          have htrail : es = es' := by
            rw [hk.trail, hk'.trail, ← hrounds, ← hk.outcome, ← hk'.outcome,
              afterCheck_eq_of_seen hseen]
          rw [judge_eq_of_seen hseen, htrail, closing_eq_of_seen hseen]
          exact ⟨rfl, rfl⟩
      · intro e _ he
        obtain ⟨rfl, hes⟩ := hk.of_laterFault he
        have hj : judge host (conclude l (.error e)) = .error e :=
          judge_of_not_lack (TlsSocket.lack?_of_laterFault he) host
        rw [hj, closing, reports, List.append_nil, List.append_nil, hes]
        refine ⟨rfl, ?_, List.getLast?_concat⟩
        rw [hk'.trail, hrounds]
        simp only [List.append_assoc]
        exact List.prefix_append_right_inj _ |>.mpr (List.prefix_append _ _)

end Verdict

/-! ## A chain with further elements -/

/-- A socket whose chain has further elements after the certificate of the peer. -/
def chained (rest : List (List UInt8)) : TlsSocket :=
  { certificate := ⟨.ok (some Factory.peerDer), []⟩, chain := some (.ok (Factory.peerDer :: rest)) }

theorem sharesLeaf_chained (rest rest' : List (List UInt8)) :
    (chained rest).SharesLeaf (chained rest') := ⟨rfl, rfl⟩

theorem verified_chained :
    ((Candidate.socket (.tls (chained []))).verify .default (some "peer.test")).outcome =
      .ok (Verdict.pass "peer.test" "peer.test" "CN=peer.test") := by
  cbv

theorem verified_chained_empty :
    (Candidate.socket (.tls (chained [[]]))).verify .default (some "peer.test") =
      ⟨.error .undecodableCertificate, [.call .certificate, .call .chain],
        .socket (.tls (chained [[]]))⟩ := by
  cbv

/-- A further certificate changes nothing, an empty element in its place takes the verdict away. -/
theorem further_elements_read :
    let v rest := (Candidate.socket (.tls (chained rest))).verify .default (some "peer.test")
    ((v [Factory.peerDer]).outcome = (v []).outcome ∧ (v [Factory.peerDer]).trail = (v []).trail) ∧
      (v [[]]).outcome = .error .undecodableCertificate ∧ (v [[]]).trail <+: (v []).trail := by
  intro v
  obtain ⟨-, hsame, -⟩ :=
    verify_reads_leaf _ _ (sharesLeaf_chained [Factory.peerDer] []) .default (some "peer.test")
  obtain ⟨-, -, hlater⟩ :=
    verify_reads_leaf _ _ (sharesLeaf_chained [[]] []) .default (some "peer.test")
  have hchain : .chain ∈ calls (v [[]]).trail := by
    show _ ∈ calls (Candidate.verify _ _ _).trail
    rw [verified_chained_empty]
    decide
  obtain ⟨ho, ht, -⟩ := hlater .undecodableCertificate hchain (by cbv)
  exact ⟨hsame (.inr ⟨by cbv, by cbv⟩), ho, ht⟩

/-- Sockets that differ in the second element of the chain alone are not always judged alike. -/
theorem second_element_counts :
    ¬ ∀ (s t : TlsSocket), s.SharesLeaf t → ∀ l host,
      let v := (Candidate.socket (.tls s)).verify l host
      let u := (Candidate.socket (.tls t)).verify l host
      v.outcome = u.outcome ∧ v.trail = u.trail := by
  intro h
  have ho := (h _ _ (sharesLeaf_chained [] [[]]) .default (some "peer.test")).1
  rw [verified_chained, verified_chained_empty] at ho
  cases ho

end PeerCheck.Session
