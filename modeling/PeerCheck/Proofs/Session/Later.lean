import PeerCheck.Proofs.Cert.Fault
import PeerCheck.Proofs.Session.Custody

/-!
# The socket after a verification

A verification moves the scripts of a socket on and changes nothing else of it
(`later_of_verifyHost`). Where it fails as a verification does, that is its verdict, unless the
socket itself raised the fault (`verify_of_unverified`); and where the peer keeps to one certificate,
the verdict can be reached again from that (`Stable.verdict_of_verifyHost`).
-/

namespace PeerCheck.Session

open PeerCheck.Cert PeerCheck.Log

/-! ## The scripts move on -/

namespace TlsSocket

/-- In `s'` some answers of `s` have been given; the rest is as in `s`. -/
structure Later (s s' : TlsSocket) : Prop where
  others : s' = { s with
    certificate := s'.certificate, probe := s'.probe, handshake := s'.handshake }
  certificate : ∃ k, ∀ i, s'.certificate.nth i = s.certificate.nth (k + i)

theorem Later.refl (s : TlsSocket) : s.Later s := ⟨rfl, 0, fun i => by rw [Nat.zero_add]⟩

theorem Later.trans {s s' s'' : TlsSocket} (h : s.Later s') (h' : s'.Later s'') : s.Later s'' where
  others := by
    have ho := h'.others
    rw [h.others] at ho
    exact ho
  certificate := by
    obtain ⟨k, hk⟩ := h.certificate
    obtain ⟨k', hk'⟩ := h'.certificate
    exact ⟨k + k', fun i => by rw [hk', hk, Nat.add_assoc]⟩

theorem later_asked (s : TlsSocket) :
    s.Later { s with certificate := s.certificate.advance } :=
  ⟨rfl, 1, fun i => by rw [Nat.add_comm]; rfl⟩

theorem Later.reported {s s' : TlsSocket} (h : s.Later s') :
    s'.reportedCipher = s.reportedCipher ∧ s'.reportedVersion = s.reportedVersion := by
  rw [h.others]
  exact ⟨rfl, rfl⟩

end TlsSocket

/-- The dialogue goes on with the same TLS socket, if it was one. -/
def Talk.Onward (t u : Talk) : Prop :=
  ∀ s, t.socket = .tls s → ∃ s', u.socket = .tls s' ∧ s.Later s'

instance : IsPreorder Talk Talk.Onward where
  refl t s hs := ⟨s, hs, .refl s⟩
  trans t u v h h' s hs := by
    obtain ⟨s', hs', hl⟩ := h s hs
    obtain ⟨s'', hs'', hl'⟩ := h' s' hs'
    exact ⟨s'', hs'', hl.trans hl'⟩

theorem steady_onward : Steady Talk.Onward := by
  rintro ⟨_, _⟩ s' trail hm s ⟨⟩
  cases hm with
  | stays => exact ⟨s, rfl, .refl s⟩
  | asked => exact ⟨_, rfl, s.later_asked⟩
  | acted a => cases a <;> exact ⟨_, rfl, rfl, 0, fun i => by rw [Nat.zero_add]⟩

variable {s s' : TlsSocket} {l : Ladder} {host : String} {es : List (Event SocketCall)}
  {r : Except Fault Verdict} {e : Fault} {v : Verdict} {c : Candidate}

theorem later_of_verifyHost
    (h : (Candidate.socket (.tls s)).verifyHost l (some host) = ⟨r, es, .socket (.tls s')⟩) :
    s.Later s' := by
  obtain ⟨es', r', u, hv, -⟩ := exists_ends_verifyHost s l host
  have hx : (Candidate.socket (.tls s)).verifyHost l (some host) = ⟨r', es', .socket (.tls u)⟩ :=
    hv.converse
  cases hx.symm.trans h
  obtain ⟨_, ⟨⟩, hl⟩ := (leads_verifyHost steady_onward l host).of_run (hv []) s rfl
  exact hl

/-! ## Faults that tell a verdict -/

/-- The fault is among the answers that the socket has in store. -/
inductive TlsSocket.Voices (s : TlsSocket) (e : Fault) : Prop
  | certificate (i : Nat) (h : heard (s.certificate.nth i) = .error e)
  | chain (h : s.chain.map heard = some (.error e))
  | cipher (h : heard s.cipher = .error e)
  | version (h : heard s.version = .error e)
  | reportedCipher (h : heard s.reportedCipher = .error e)
  | reportedVersion (h : heard s.reportedVersion = .error e)
  | probe (i : Nat) (h : (s.probe.nth i).map Subtype.val = some e)
  | handshake (i : Nat) (h : (s.handshake.nth i).map Subtype.val = some e)

theorem voices_of_toldChain (h : s.toldChain = .error e) : s.Voices e ∨ e.IsPlain := by
  unfold TlsSocket.toldChain at h
  split at h
  · cases h
  · next answer hc =>
    cases answer with
    | error e' =>
      cases h
      exact .inl (.chain (by rw [hc]; rfl))
    | ok ders =>
      obtain ⟨der, -, hd⟩ := exists_of_mapM_eq_error (f := Certificate.ofDer) h
      exact .inr (isPlain_of_ofDer hd)

theorem voices_of_sessionWith {der : Option (List UInt8)} (h : s.sessionWith der = .error e) :
    s.Voices e ∨ e.IsPlain := by
  match der, h with
  | none, h => cases h
  | some [], h => cases h
  | some (b :: bs), h =>
    obtain ht | hd | hc | hv := TlsSocket.fault_cases h
    · exact voices_of_toldChain ht
    · exact .inr (isPlain_of_ofDer hd)
    · exact .inl (.cipher hc)
    · exact .inl (.version hv)

/-- What a check or a step raises is an answer of the socket, or the fault of a certificate. -/
theorem voices_of_raises (h : (SecureSocket.tls s).Raises e) : s.Voices e ∨ e.IsPlain := by
  obtain ⟨i, ha⟩ | ⟨a, i, ho⟩ := h
  · rw [SecureSocket.answer] at ha
    cases hc : s.certificate.nth i with
    | ok der =>
      rw [hc] at ha
      exact voices_of_sessionWith ha
    | error e' =>
      rw [hc, orYet] at ha
      split at ha
      · cases ha
      · cases ha
        exact .inl (.certificate i (by rw [hc]; rfl))
  · cases a with
    | probeInput => exact .inl (.probe i ho)
    | startHandshake => exact .inl (.handshake i ho)
    | nothing => cases ho

/-- What stops a verification is an answer of the socket or the fault of a certificate, or else the
verdict that was reached. -/
theorem fault_of_verifyHost
    (h : (Candidate.socket (.tls s)).verifyHost l (some host) = ⟨.error e, es, c⟩) :
    (s.Voices e ∨ e.IsPlain) ∨
      ∃ v, ((Candidate.socket (.tls s)).verify l (some host)).outcome = .ok v ∧
        v.require = .error e := by
  obtain ⟨es', x, -, -, hasc⟩ := resolve_ascends (.tls s) l
  have ho := outcome_verifyHost (.tls s) l host
  rw [h, (hasc.verify host).1] at ho
  rw [(hasc.verify host).1]
  obtain he | hv := of_bind_eq_error ho.symm
  · obtain ⟨hc, hl⟩ | ⟨y, leaf, rest, -, -, hs⟩ :=
      (judge_error_iff fun y hy => hasc.chain_ne_nil_of_conclude hy).mp he
    · exact .inl (voices_of_raises (hasc.raises_of_conclude hc hl))
    · exact .inl (.inr (isPlain_of_render hs))
  · exact .inr hv

/-- A verification that fails as such tells its verdict, unless the socket raised the fault. -/
theorem verify_of_unverified {u : Unverified} (hu : ¬ s.Voices (.unverified u))
    (h : (Candidate.socket (.tls s)).verifyHost l (some host) = ⟨.error (.unverified u), es, c⟩) :
    ((Candidate.socket (.tls s)).verify l (some host)).outcome = .ok (.ofUnverified u) := by
  obtain he | ⟨v, hv, hr⟩ := fault_of_verifyHost h
  · exact absurd rfl ((he.resolve_left hu).verified u)
  · rw [hv, Verdict.eq_ofUnverified_of_require hr]

/-- No verification fails as a connection that ran out of time, unless the socket raised that. -/
theorem voices_of_connectTimedOut {address port seconds : String}
    (h : (Candidate.socket (.tls s)).verifyHost l (some host) =
      ⟨.error (.connectTimedOut address port seconds), es, c⟩) :
    s.Voices (.connectTimedOut address port seconds) := by
  obtain he | ⟨v, -, hr⟩ := fault_of_verifyHost h
  · exact he.resolve_right fun hplain => hplain.inTime _ _ _ rfl
  · obtain ⟨u, hu⟩ := Verdict.exists_unverified_of_require hr
    cases hu

/-! ## A peer that keeps to its certificate -/

/-- Every answer for the certificate is the same, and a chain that is told begins with it. -/
structure TlsSocket.Stable (s : TlsSocket) (der : List UInt8) : Prop where
  certificate : ∀ i, s.certificate.nth i = .ok (some der)
  chain : ∀ ders, s.chain = some (.ok ders) → ders ≠ [] → ders.head? = some der

namespace TlsSocket.Stable

variable {der : List UInt8}

theorem later (h : s.Stable der) (hl : s.Later s') : s'.Stable der where
  certificate i := by
    obtain ⟨k, hk⟩ := hl.certificate
    rw [hk, h.certificate]
  chain := by
    rw [hl.others]
    exact h.chain

/-- A chain that is told and not empty begins with that certificate. -/
theorem head_of_toldChain (h : s.Stable der) {leaf : Certificate} {rest : List Certificate}
    (ht : s.toldChain = .ok (leaf :: rest)) : Certificate.ofDer der = .ok leaf := by
  obtain ⟨d, ders, hc, hd⟩ := TlsSocket.exists_head_of_toldChain ht
  obtain rfl : d = der := Option.some.inj (h.chain _ hc (List.cons_ne_nil d ders))
  exact hd

/-- The session has that certificate for its first. -/
theorem head_of_answer (h : s.Stable der) {k : Nat} {y : Session}
    (hy : (SecureSocket.tls s).answer k = .ok (some y)) :
    ∃ leaf rest, y.chain = leaf :: rest ∧ Certificate.ofDer der = .ok leaf := by
  rw [SecureSocket.answer, h.certificate] at hy
  change s.sessionWith (some der) = _ at hy
  match der, h, hy with
  | b :: bs, h, hy =>
    obtain ⟨x, leaf, rest, ⟨⟩, hchain, ht | hd⟩ := TlsSocket.session_cases hy
    · exact ⟨leaf, rest, hchain, h.head_of_toldChain ht⟩
    · exact ⟨leaf, rest, hchain, hd⟩

/-- A verdict that is let through is that on the certificate, whenever the peer is asked for it. -/
theorem verdict_of_verifyHost (h : s.Stable der)
    (hv : (Candidate.socket (.tls s)).verifyHost l (some host) = ⟨.ok v, es, c⟩) :
    ((Candidate.socket (.tls s)).verify l (some host)).outcome = .ok v ∧
      ∃ leaf rs, Certificate.ofDer der = .ok leaf ∧
        verifyCertificate leaf (some host) = .ok (v, rs) := by
  obtain ⟨es', x, -, -, hasc⟩ := resolve_ascends (.tls s) l
  have ho := outcome_verifyHost (.tls s) l host
  rw [hv, (hasc.verify host).1] at ho
  obtain ⟨v', hj, hr⟩ := exists_of_bind_eq_ok ho.symm
  obtain ⟨rfl, hf⟩ := Verdict.require_eq_ok_iff.mp hr
  obtain ⟨y, rs, hc, hp⟩ := exists_session_of_pass hj hf
  obtain rfl := of_conclude_eq_ok hc
  refine ⟨(hasc.verify host).1.trans hj, ?_⟩
  cases hasc with
  | found k _ _ ha _ =>
    obtain ⟨leaf, rest, hchain, hd⟩ := h.head_of_answer ha
    rw [leafOf_of_chain hchain] at hp
    exact ⟨leaf, rs, hd, hp⟩

end TlsSocket.Stable

end PeerCheck.Session
