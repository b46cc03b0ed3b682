import PeerCheck.Proofs.Factory.Handover
import PeerCheck.Proofs.Session.Later

/-!
# The verdict behind a connection

Where a connection is refused for want of verification, the fault tells the verdict that was reached
on its socket (`verdict_of_refused`). Where it is handed out, the verdict passed, and a peer that
keeps to its certificate has that verdict still (`verdict_of_handedOut`).
-/

namespace PeerCheck

open PeerCheck.Cert PeerCheck.Json PeerCheck.Session

/-- The fault is among the answers that the network, the TLS library or its socket have in store for
the next connection. -/
inductive World.Voices (w : World) (e : Fault) : Prop
  | connect (h : w.network.connects.current = some e)
  | timeout (h : w.network.timeoutFault = some e)
  | wrap (h : w.wrapAnswer = .error e)
  | socket (s : TlsSocket) (h : w.wrapAnswer = .ok s) (hs : s.Voices e)

namespace Factory

abbrev judged (s : TlsSocket) (l : Ladder) (host : String) : Except Fault Verdict :=
  ((Candidate.socket (.tls s.fresh)).verify l (some host)).outcome

variable {s s' : TlsSocket} {l : Ladder} {host : String} {port : Value} {wishes : Wishes}
  {w w' : World} {f : Factory} {x : Unverified} {n m : Nat} {e : Fault}

theorem voices_fresh (h : s.fresh.Voices e) : s.Voices e := by
  cases h with
  | certificate i h => exact .certificate i h
  | chain h => exact .chain h
  | cipher h => exact .cipher h
  | version h => exact .version h
  | reportedCipher h => exact .reportedCipher h
  | reportedVersion h => exact .reportedVersion h
  | probe i h => exact .probe i h
  | handshake i h => exact .handshake i h

/-- What keeps a session from being reported is an answer of the socket. -/
theorem voices_of_report (hl : s.Later s') (h : s'.report host port = .error e) : s.Voices e := by
  obtain ⟨hcipher, hversion⟩ := hl.reported
  obtain ⟨k, hk⟩ := hl.certificate
  obtain hc | ⟨der, -, h⟩ := of_bind_eq_error h
  · exact .certificate k ((congrArg heard (hk 0)).symm.trans hc)
  obtain hc | ⟨cipher, -, h⟩ := of_bind_eq_error h
  · exact .reportedCipher ((congrArg heard hcipher).symm.trans hc)
  obtain hv | ⟨version, -, h⟩ := of_bind_eq_error h
  · exact .reportedVersion ((congrArg heard hversion).symm.trans hv)
  · cases h

theorem Fate.verdict_of_refused {a : Except Fault TlsSocket} {rescue : Fault → List (Event Call)}
    {es : List (Event Call)} {o : Option TlsSocket}
    (h : Fate a n l host port rescue (.error (.unverified x)) es o)
    (hwrap : a ≠ .error (.unverified x))
    (hsocket : ∀ s, a = .ok s → ¬ s.Voices (.unverified x)) :
    ∃ s, a = .ok s ∧ judged s l host = .ok (.ofUnverified x) := by
  cases h with
  | unwrapped _ h => exact absurd h hwrap
  | unverified s s' es _ h hv =>
    exact ⟨s, h, verify_of_unverified (fun hx => hsocket s h (voices_fresh hx)) hv⟩
  | unreported s s' es v _ h hv hr =>
    exact absurd (voices_fresh (voices_of_report (later_of_verifyHost hv) hr)) (hsocket s h)

/-- A connection that fails as a verification does has the verdict of its socket for the reason,
unless the fault was an answer that was in store. -/
theorem verdict_of_refused
    (hrun : (createSocket f (some host) port wishes).run w = (.error (.unverified x), w'))
    (hx : ¬ w.Voices (.unverified x)) :
    ∃ s, w.wrapAnswer = .ok s ∧ judged s f.ladder host = .ok (.ofUnverified x) := by
  cases hc : w.network.connects.current with
  | some e =>
    have hconnect := run_connect f.settings host port wishes w
    rw [hc] at hconnect
    have he := congrArg Prod.fst (hrun.symm.trans (run_bind_of_error hconnect))
    change Except.error (Fault.unverified x) = Except.error (if e.isTimeout then _ else e) at he
    split at he
    · cases he
    · cases he
      exact absurd (.connect hc) hx
  | none =>
    obtain ⟨e, w₁, ht, hrun', -⟩ | ⟨-, r, es, o, w₁, hfate, hrun', -⟩ :=
      createSocket_course f host port wishes hc
    · cases hrun.symm.trans hrun'
      exact absurd (.timeout ht) hx
    · cases hrun.symm.trans hrun'
      exact hfate.verdict_of_refused (fun h => hx (.wrap h)) fun s h hs => hx (.socket s h hs)

/-- The socket that is handed out had passed, and where the peer keeps to its certificate, the
certificate it has yet is verified with that very verdict. -/
theorem verdict_of_handedOut {der : List UInt8}
    (hrun : (createSocket f (some host) port wishes).run w = (.ok n, w'))
    (hs : w.wrapAnswer = .ok s) (hst : s.Stable der) :
    ∃ v, judged s f.ladder host = .ok v ∧ v.passed = true ∧
      (∃ s', w'.sockets[n - 1]? = some s' ∧ s'.Stable der) ∧
      ∃ c rs, Certificate.ofDer der = .ok c ∧ verifyCertificate c (some host) = .ok (v, rs) := by
  obtain ⟨_, ⟨rfl⟩, rfl, ⟨_, s', es, v, r, hs', hv, hf, -, hsockets, -⟩, -⟩ :=
    handedOut_of_createSocket hrun
  cases hs.symm.trans hs'
  have hfresh : s.fresh.Stable der := ⟨hst.certificate, hst.chain⟩
  have hlater : s.fresh.Later s'.asked := (later_of_verifyHost hv).trans s'.later_asked
  obtain ⟨hjudged, hcert⟩ := hfresh.verdict_of_verifyHost hv
  refine ⟨v, hjudged, ?_, ⟨s'.asked, ?_, hfresh.later hlater⟩, hcert⟩
  · rw [Verdict.passed, hf]
    rfl
  · rw [hsockets]
    exact List.getElem?_concat_length

end Factory

end PeerCheck
