import PeerCheck.Proofs.Session.Dialogue
import PeerCheck.Session.Recovery

/-!
# What sockets answer

A socket is asked for its session and pressed for one. What it says each time depends on its scripts
and on how often it was asked: `SecureSocket.answer s i` is what check number `i` comes to, and
`SecureSocket.objection s a i` the fault that action number `i` of the kind `a` meets. Both are
counted from zero, and each kind of call has a count of its own.
-/

namespace PeerCheck

namespace Script

variable {α : Type}

def nth : Script α → Nat → α
  | s, 0 => s.current
  | s, i + 1 => s.advance.nth i

def map {β : Type} (f : α → β) (s : Script α) : Script β := ⟨f s.current, s.later.map f⟩

theorem nth_map {β : Type} (f : α → β) (s : Script α) (i : Nat) :
    (s.map f).nth i = f (s.nth i) := by
  induction i generalizing s with
  | zero => rfl
  | succ i ih =>
    show (s.map f).advance.nth i = f (s.advance.nth i)
    have h : (s.map f).advance = s.advance.map f := by
      obtain ⟨current, later⟩ := s
      cases later <;> rfl
    rw [h, ih]

end Script

section Heard

variable {α : Type} {r : Except SocketFault α} {a : α} {e : Fault}

@[simp] theorem heard_ok (a : α) : heard (.ok a) = .ok a := rfl

@[simp] theorem heard_error (e : SocketFault) : heard (.error e : Except _ α) = .error e.val := rfl

theorem heard_eq_ok_iff : heard r = .ok a ↔ r = .ok a := by
  cases r <;> simp

theorem lack?_of_heard (h : heard r = .error e) : e.lack? = none := by
  cases r with
  | ok a => cases h
  | error e' =>
    cases h
    exact e'.property

end Heard

namespace Session

open PeerCheck.Cert

/-! ## The scripts read -/

/-- The peer's certificate as a check takes it: a value fault says that there is none yet. -/
def orYet : Except SocketFault (Option (List UInt8)) → Except SocketFault (Option (List UInt8))
  | .ok der => .ok der
  | .error e => if e.val.isValue then .ok none else .error e

theorem heard_orYet {r : Except SocketFault (Option (List UInt8))} {e : Fault}
    (h : heard r = .error e) : heard (orYet r) = if e.isValue then .ok none else .error e := by
  cases r with
  | ok der => cases h
  | error e' =>
    cases h
    rw [orYet]
    split <;> rfl

namespace TlsSocket

/-- The chain the socket tells, read in. -/
def toldChain (s : TlsSocket) : Except Fault (List Certificate) :=
  match s.chain with
  | none => .ok []
  | some answer => heard answer >>= List.mapM Certificate.ofDer

def chainCalls (s : TlsSocket) : List SocketCall := if s.chain.isSome then [.chain] else []

/-- The session that goes with a certificate of the peer. -/
def sessionWith (s : TlsSocket) : Option (List UInt8) → Except Fault (Option Session)
  | none | some [] => .ok none
  | some der => do
    let told ← s.toldChain
    let chain ← if told.isEmpty then (Certificate.ofDer der).map ([·]) else .ok told
    let cipher ← heard s.cipher
    let version ← heard s.version
    .ok (some ⟨chain, version, cipher⟩)

variable {s : TlsSocket} {b : UInt8} {bs : List UInt8} {e : Fault}

theorem toldChain_of_chain {ders : List (List UInt8)} (h : s.chain = some (.ok ders)) :
    s.toldChain = ders.mapM Certificate.ofDer := by
  rw [toldChain, h]
  rfl

/-- A chain that is not empty begins with the certificate in its first element. -/
theorem exists_head_of_toldChain {leaf : Certificate} {rest : List Certificate}
    (h : s.toldChain = .ok (leaf :: rest)) :
    ∃ der ders, s.chain = some (.ok (der :: ders)) ∧ Certificate.ofDer der = .ok leaf := by
  unfold toldChain at h
  split at h
  · cases h
  · next answer hc =>
    obtain ⟨ders, ha, hm⟩ := exists_of_bind_eq_ok h
    obtain rfl := heard_eq_ok_iff.mp ha
    cases ders with
    | nil => cases hm
    | cons der ders =>
      rw [List.mapM_cons] at hm
      obtain ⟨c, hd, hm⟩ := exists_of_bind_eq_ok hm
      obtain ⟨cs, -, hm⟩ := exists_of_bind_eq_ok hm
      cases hm
      exact ⟨der, ders, hc, hd⟩

theorem sessionWith_cons (s : TlsSocket) (b : UInt8) (bs : List UInt8) :
    s.sessionWith (some (b :: bs)) = s.toldChain >>= fun told =>
      (if told.isEmpty then (Certificate.ofDer (b :: bs)).map ([·]) else .ok told) >>= fun chain =>
        heard s.cipher >>= fun cipher => heard s.version >>= fun version =>
          .ok (some ⟨chain, version, cipher⟩) := by
  unfold sessionWith
  cases s.toldChain with
  | error e => rfl
  | ok told => cases told <;> rfl

/-- A session has the chain that the socket tells, or else the certificate of the peer alone. -/
theorem session_cases {o : Option Session} (h : s.sessionWith (some (b :: bs)) = .ok o) :
    ∃ x leaf rest, o = some x ∧ x.chain = leaf :: rest ∧
      (s.toldChain = .ok (leaf :: rest) ∨ Certificate.ofDer (b :: bs) = .ok leaf) := by
  rw [sessionWith_cons] at h
  obtain ⟨told, ht, h⟩ := exists_of_bind_eq_ok h
  obtain ⟨chain, hc, h⟩ := exists_of_bind_eq_ok h
  obtain ⟨cipher, -, h⟩ := exists_of_bind_eq_ok h
  obtain ⟨version, -, h⟩ := exists_of_bind_eq_ok h
  cases h
  cases told with
  | nil =>
    obtain ⟨leaf, hd, rfl⟩ := exists_of_map_eq_ok hc
    exact ⟨_, leaf, [], rfl, rfl, .inr hd⟩
  | cons leaf rest =>
    cases hc
    exact ⟨_, leaf, rest, rfl, rfl, .inl ht⟩

/-- What keeps a session from being made. -/
theorem fault_cases (h : s.sessionWith (some (b :: bs)) = .error e) :
    s.toldChain = .error e ∨ Certificate.ofDer (b :: bs) = .error e ∨ heard s.cipher = .error e ∨
      heard s.version = .error e := by
  rw [sessionWith_cons] at h
  obtain ht | ⟨told, -, h⟩ := of_bind_eq_error h
  · exact .inl ht
  obtain hc | ⟨chain, -, h⟩ := of_bind_eq_error h
  · split at hc
    · exact .inr (.inl (of_map_eq_error hc))
    · cases hc
  obtain hc | ⟨cipher, -, h⟩ := of_bind_eq_error h
  · exact .inr (.inr (.inl hc))
  obtain hv | ⟨version, -, h⟩ := of_bind_eq_error h
  · exact .inr (.inr (.inr hv))
  · cases h

end TlsSocket

namespace SecureSocket

def answer : SecureSocket → Nat → Except Fault (Option Session)
  | .stack s, i => heard (s.sessions.nth i)
  | .tls s, i => heard (orYet (s.certificate.nth i)) >>= s.sessionWith

def objection : SecureSocket → Action → Nat → Option Fault
  | .stack s, .probeInput, i | .tls s, .probeInput, i => (s.probe.nth i).map Subtype.val
  | .stack s, .startHandshake, i | .tls s, .startHandshake, i =>
    (s.handshake.nth i).map Subtype.val
  | _, .nothing, _ => none

def ask : SecureSocket → SocketCall
  | .stack _ => .session
  | .tls _ => .certificate

/-- The further call of check number `i`: a TLS socket with a certificate may tell its chain. -/
def further : SecureSocket → Nat → List SocketCall
  | .stack _, _ => []
  | .tls s, i =>
    match s.certificate.nth i with
    | .ok (some (_ :: _)) => s.chainCalls
    | _ => []

def callsOf : SecureSocket → Action → List SocketCall
  | .stack _, .probeInput => [.probe]
  | .stack _, .startHandshake => [.handshake]
  | .tls _, .probeInput => [.pending]
  | .tls _, .startHandshake => [.doHandshake]
  | _, .nothing => []

def asked : SecureSocket → SecureSocket
  | .stack s => .stack { s with sessions := s.sessions.advance }
  | .tls s => .tls { s with certificate := s.certificate.advance }

def acted : SecureSocket → Action → SecureSocket
  | .stack s, .probeInput => .stack { s with probe := s.probe.advance }
  | .stack s, .startHandshake => .stack { s with handshake := s.handshake.advance }
  | .tls s, .probeInput => .tls { s with probe := s.probe.advance }
  | .tls s, .startHandshake => .tls { s with handshake := s.handshake.advance }
  | s, .nothing => s

/-! ## A check moves on the session, an action its own faults, and neither anything else -/

variable (s : SecureSocket) (a : Action) (i : Nat)

@[simp] theorem answer_asked : s.asked.answer i = s.answer (i + 1) := by
  cases s <;> rfl

@[simp] theorem answer_acted : (s.acted a).answer i = s.answer i := by
  cases s <;> cases a <;> rfl

@[simp] theorem objection_asked : s.asked.objection a i = s.objection a i := by
  cases s <;> cases a <;> rfl

theorem objection_acted_self : (s.acted a).objection a i = s.objection a (i + 1) := by
  cases s <;> cases a <;> rfl

theorem objection_acted_of_ne {a b : Action} (h : a ≠ b) :
    (s.acted a).objection b i = s.objection b i := by
  cases s <;> cases a <;> cases b <;> first | rfl | exact absurd rfl h

@[simp] theorem ask_asked : s.asked.ask = s.ask := by
  cases s <;> rfl

@[simp] theorem ask_acted : (s.acted a).ask = s.ask := by
  cases s <;> cases a <;> rfl

@[simp] theorem further_asked : s.asked.further i = s.further (i + 1) := by
  cases s <;> rfl

@[simp] theorem further_acted : (s.acted a).further i = s.further i := by
  cases s <;> cases a <;> rfl

theorem further_cases : s.further i = [] ∨ s.further i = [.chain] := by
  cases s with
  | stack s => exact .inl rfl
  | tls s =>
    simp only [further, TlsSocket.chainCalls]
    split
    · split
      · exact .inr rfl
      · exact .inl rfl
    · exact .inl rfl

@[simp] theorem callsOf_asked : s.asked.callsOf a = s.callsOf a := by
  cases s <;> cases a <;> rfl

@[simp] theorem callsOf_acted (b : Action) : (s.acted b).callsOf a = s.callsOf a := by
  cases s <;> cases b <;> cases a <;> rfl

end SecureSocket

/-! ## The dialogues of a check and of an action -/

theorem ends_peerCertificateYet (s : TlsSocket) (u : SecureSocket) :
    Ends (peerCertificateYet s) u [.call .certificate] (heard (orYet s.certificate.current))
      (.tls { s with certificate := s.certificate.advance }) := by
  have hread : Ends (match s.certificate.current with
      | .ok der => pure der
      | .error e =>
        if e.val.isValue then pure none else throw e.val : Dialogue (Option (List UInt8)))
      (.tls { s with certificate := s.certificate.advance }) []
      (heard (orYet s.certificate.current))
      (.tls { s with certificate := s.certificate.advance }) := by
    cases s.certificate.current with
    | ok der => exact Ends.pure der
    | error e =>
      simp only [orYet]
      split
      · exact Ends.pure none
      · exact Ends.throw e.val
  exact (Ends.call .certificate).bind ((Ends.setSocket _).bind_silent hread)

theorem ends_peerChain (s : TlsSocket) (u : SecureSocket) :
    Ends (peerChain s) u (s.chainCalls.map .call) s.toldChain u := by
  unfold peerChain TlsSocket.toldChain TlsSocket.chainCalls
  cases s.chain with
  | none => exact Ends.pure []
  | some answer => exact (Ends.call .chain).bind (Ends.ofExcept _)

/-- Nothing but the reading of the chain is a call. -/
theorem ends_sessionWith (s : TlsSocket) (u : SecureSocket) (b : UInt8) (bs : List UInt8) :
    Ends (do
        let chain ← peerChain s
        let chain ←
          if chain.isEmpty then ofExcept ((Certificate.ofDer (b :: bs)).map ([·])) else pure chain
        let cipher ← ofExcept (heard s.cipher)
        let version ← ofExcept (heard s.version)
        pure (some ⟨chain, version, cipher⟩))
      u (s.chainCalls.map .call) (s.sessionWith (some (b :: bs))) u := by
  have hlast : ∀ chain, Ends (do
        let cipher ← ofExcept (heard s.cipher)
        let version ← ofExcept (heard s.version)
        pure (some (Session.mk chain version cipher))) u []
      (do
        let cipher ← heard s.cipher
        let version ← heard s.version
        .ok (some ⟨chain, version, cipher⟩)) u := fun chain =>
    (Ends.ofExcept (heard s.cipher)).bind_pure fun cipher =>
      (Ends.ofExcept (heard s.version)).bind_pure fun version => Ends.pure _
  refine (ends_peerChain s u).bind_pure fun told => ?_
  cases told.isEmpty with
  | true => exact (Ends.ofExcept _).bind_pure hlast
  | false => exact (Ends.pure told).bind_pure hlast

theorem ends_sessionOver (s : TlsSocket) (u : SecureSocket) :
    Ends (sessionOver s) u (((SecureSocket.tls s).ask :: (SecureSocket.tls s).further 0).map .call)
      ((SecureSocket.tls s).answer 0) (SecureSocket.tls s).asked := by
  have hc := ends_peerCertificateYet s u
  unfold sessionOver SecureSocket.answer SecureSocket.further
  simp only [Script.nth]
  cases h : s.certificate.current with
  | error e =>
    rw [h] at hc
    cases he : e.val.isValue with
    | true =>
      simp only [orYet, he, if_true] at hc ⊢
      exact hc.bind (Ends.pure none)
    | false =>
      simp only [orYet, he, Bool.false_eq_true, if_false] at hc ⊢
      exact hc.bind_error
  | ok der =>
    rw [h] at hc
    match der with
    | none => exact hc.bind (Ends.pure none)
    | some [] => exact hc.bind (Ends.pure none)
    | some (b :: bs) =>
      rw [List.map_cons]
      exact hc.bind (ends_sessionWith s _ b bs)

theorem ends_getSession (s : SecureSocket) :
    Ends getSession s ((s.ask :: s.further 0).map .call) (s.answer 0) s.asked := by
  refine Ends.get fun t ht => ?_
  rw [ht]
  cases s with
  | stack s => exact (Ends.call _).bind ((Ends.setSocket _).bind_silent (Ends.ofExcept _))
  | tls s => exact ends_sessionOver s _

theorem ends_action (a : Action) (s : SecureSocket) :
    Ends a.run s ((s.callsOf a).map .call) (refusal (s.objection a 0)) (s.acted a) := by
  cases a with
  | probeInput =>
    refine Ends.get fun t ht => ?_
    rw [ht]
    cases s <;> exact (Ends.call _).bind ((Ends.setSocket _).bind_silent (Ends.check _))
  | startHandshake =>
    refine Ends.get fun t ht => ?_
    rw [ht]
    cases s <;> exact (Ends.call _).bind ((Ends.setSocket _).bind_silent (Ends.check _))
  | nothing => cases s <;> exact Ends.pure ()

end Session

end PeerCheck
