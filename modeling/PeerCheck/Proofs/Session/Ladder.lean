import PeerCheck.Proofs.Cert.Fault
import PeerCheck.Proofs.Session.Recovery

/-!
# The law of the recovery ladder

What a recovery comes to follows from the scripts alone: the first usable session is the outcome,
the first fault is passed on as it is, and only a ladder climbed in vain lacks a session. Nothing is
asked of the socket after that, and it is never closed.
-/

namespace PeerCheck

/-- The fault says that no session was to be had. -/
def Fault.lacksSession (e : Fault) : Bool := e.lack?.isSome

theorem Fault.IsPlain.lack?_eq_none {e : Fault} (h : e.IsPlain) : e.lack? = none := by
  cases e with
  | unverified u => exact absurd rfl (h.verified u)
  | _ => rfl

namespace Session

variable {s : SecureSocket} {l : Ladder} {x : Except Fault (Option Session)}
  {es : List (Event SocketCall)} {e : Fault}

/-- The chain fails as the socket does, or as a certificate in it. -/
theorem TlsSocket.lack?_of_toldChain {s : TlsSocket} (h : s.toldChain = .error e) :
    e.lack? = none := by
  unfold TlsSocket.toldChain at h
  split at h
  · cases h
  · obtain ha | ⟨ders, -, hm⟩ := of_bind_eq_error h
    · exact lack?_of_heard ha
    · obtain ⟨der, -, hd⟩ := exists_of_mapM_eq_error (f := Cert.Certificate.ofDer) hm
      exact (Cert.isPlain_of_ofDer hd).lack?_eq_none

theorem TlsSocket.lack?_of_sessionWith {s : TlsSocket} {der : Option (List UInt8)}
    (h : s.sessionWith der = .error e) : e.lack? = none := by
  match der, h with
  | some (b :: bs), h =>
    obtain ht | hd | hc | hv := TlsSocket.fault_cases h
    · exact lack?_of_toldChain ht
    · exact (Cert.isPlain_of_ofDer hd).lack?_eq_none
    · exact lack?_of_heard hc
    · exact lack?_of_heard hv

namespace SecureSocket

/-- All the checks of a ladder take place, none fails, and none has a usable session. -/
structure Exhausts (s : SecureSocket) (l : Ladder) : Prop where
  vain : ∀ i ≤ l.length, Vain (s.answer i)
  fine : ∀ i < l.length, s.stepFault l i = none

def Raises (s : SecureSocket) (e : Fault) : Prop :=
  (∃ i, s.answer i = .error e) ∨ ∃ a i, s.objection a i = some e

theorem exhausts_iff : s.Exhausts l ↔ s.Reaches l l.length ∧ Vain (s.answer l.length) := by
  constructor
  · intro h
    refine ⟨⟨Nat.le_refl _, fun i hi => ?_, h.fine⟩, h.vain _ (Nat.le_refl _)⟩
    exact h.vain i (Nat.le_of_lt hi)
  · rintro ⟨hr, hv⟩
    refine ⟨fun i hi => ?_, hr.fine⟩
    obtain hlt | rfl := Nat.lt_or_eq_of_le hi
    · exact hr.vain i hlt
    · exact hv

end SecureSocket

/-- The fault of a course is one that the socket raises. -/
theorem Ascent.raises (h : Ascent s l (.error e) es) : s.Raises e := by
  cases h with
  | refused k _ hr ha => exact .inl ⟨k, ha⟩
  | balked k st _ hr hv hst hf =>
    rw [SecureSocket.stepFault, hst] at hf
    exact .inr ⟨_, _, hf⟩

/-- No check says that there is no session to be had, nor does an action. -/
theorem SecureSocket.lack?_of_raises (h : s.Raises e) : e.lack? = none := by
  obtain ⟨i, ha⟩ | ⟨a, i, ho⟩ := h
  · match s, ha with
    | .stack _, ha => exact lack?_of_heard ha
    | .tls _, ha =>
      obtain hc | ⟨der, -, hs⟩ := of_bind_eq_error ha
      · exact lack?_of_heard hc
      · exact TlsSocket.lack?_of_sessionWith hs
  · match s, a, ho with
    | .stack _, .probeInput, ho | .stack _, .startHandshake, ho | .tls _, .probeInput, ho
    | .tls _, .startHandshake, ho =>
      obtain ⟨e', -, rfl⟩ := Option.map_eq_some_iff.mp ho
      exact e'.property

theorem Ascent.exhausts (h : Ascent s l (.ok none) es) : s.Exhausts l := by
  cases h with
  | exhausted hr hv => exact SecureSocket.exhausts_iff.mpr ⟨hr, hv⟩

theorem SecureSocket.Exhausts.ascent (h : s.Exhausts l) : Ascent s l (.ok none) (s.rounds l) := by
  obtain ⟨hr, hv⟩ := SecureSocket.exhausts_iff.mp h
  exact .exhausted hr hv

theorem Ascent.chain_ne_nil {y : Session} (h : Ascent s l (.ok (some y)) es) : y.chain ≠ [] := by
  cases h with
  | found k _ hr ha hy => exact hy

/-! ## No call closes the socket -/

theorem SecureSocket.close_notMem_rounds (s : SecureSocket) (l : Ladder) :
    .call .close ∉ s.rounds l := by
  have hask : s.ask ≠ .close := by cases s <;> nofun
  have hact : ∀ a, .close ∉ s.callsOf a := by
    intro a
    cases s <;> cases a <;> simp [SecureSocket.callsOf]
  intro h
  simp only [SecureSocket.rounds, List.mem_cons, Event.call.injEq, List.mem_flatMap, List.mem_map,
    List.mem_append, reduceCtorEq, false_or, List.not_mem_nil, or_false, exists_eq_right] at h
  rcases h with h | ⟨st, -, h | h⟩
  · exact hask h.symm
  · exact hact st.action h
  · exact hask h.symm

theorem SecureSocket.close_notMem_further (s : SecureSocket) (i : Nat) :
    .close ∉ s.further i := by
  obtain h | h := s.further_cases i <;> simp [h]

theorem close_notMem_recovered (l : Ladder) (k : Nat) :
    (.call .close : Event SocketCall) ∉ recovered l k := by
  cases k with
  | zero => exact List.not_mem_nil
  | succ k =>
    simp [recovered]

theorem close_notMem_closing (l : Ladder) (x : Except Fault (Option Session)) :
    (.call .close : Event SocketCall) ∉ closing l x := by
  match x with
  | .ok none => simp [closing]
  | .ok (some _) => exact List.not_mem_nil
  | .error _ => exact List.not_mem_nil

theorem Ascent.close_notMem (h : Ascent s l x es) : .call .close ∉ es := by
  have hround := s.close_notMem_rounds
  have hfurther : ∀ k, .call .close ∉ (s.further k).map Event.call := by
    intro k hc
    obtain ⟨c, hc, he⟩ := List.mem_map.mp hc
    cases he
    exact s.close_notMem_further k hc
  cases h with
  | found k y hr ha hy =>
    simp only [List.mem_append, not_or]
    exact ⟨⟨hround _, hfurther k⟩, close_notMem_recovered l k⟩
  | refused k e hr ha =>
    simp only [List.mem_append, not_or]
    exact ⟨hround _, hfurther k⟩
  | balked k st e hr hv hst hf =>
    have hall := hround [st]
    rw [SecureSocket.rounds_cons] at hall
    simp only [List.mem_cons, List.mem_append, not_or] at hall ⊢
    exact ⟨hround _, hall.2.1, hall.2.2.1⟩
  | exhausted hr hv => exact hround l

/-! ## The law -/

/-- The recovery ends in a failure that says there is no session. -/
def Lacks (r : Except Fault Session) : Prop := ∃ e, r = .error e ∧ e.lacksSession = true

theorem lacks_conclude_iff : Lacks (conclude l x) ↔
    x = .ok none ∨ ∃ e, x = .error e ∧ e.lacksSession = true := by
  match x with
  | .ok none => simp [Lacks, conclude, Fault.lacksSession, Fault.lack?, exhausted]
  | .ok (some y) => simp [Lacks, conclude]
  | .error e => simp [Lacks, conclude]

theorem of_conclude_eq_ok {y : Session} (h : conclude l x = .ok y) : x = .ok (some y) := by
  match x, h with
  | .ok (some _), h =>
    cases h
    rfl
  | .ok none, h => cases h
  | .error _, h => cases h

theorem exists_leaf {y : Session} (h : y.chain ≠ []) : ∃ leaf, leaf? y = some leaf := by
  obtain ⟨leaf, rest, hchain⟩ := List.exists_cons_of_ne_nil h
  exact ⟨leaf, by rw [leaf?, hchain, List.head?_cons]⟩

/-- No session is to be had just where every check is made in vain. -/
theorem Ascent.lacks_iff (h : Ascent s l x es) : Lacks (conclude l x) ↔ s.Exhausts l := by
  rw [lacks_conclude_iff]
  constructor
  · rintro (rfl | ⟨e, rfl, hl⟩)
    · exact h.exhausts
    · rw [Fault.lacksSession, SecureSocket.lack?_of_raises h.raises] at hl
      cases hl
  · intro hx
    exact .inl (h.unique hx.ascent).1

def lateSession : Session := ⟨[.ofSubject "CN=late.test"], none, none⟩

def lateSessions : Script (Except SocketFault (Option Session)) :=
  ⟨.ok none, [.ok none, .ok (some lateSession)]⟩

/-- The third check of this socket has a session. -/
def lateSocket : SecureSocket := .stack { sessions := lateSessions }

theorem lateSocket_ascent :
    Ascent lateSocket .default (.ok (some lateSession))
      [.call .session, .record (stepRecord .probe), .call .probe, .call .session,
        .record (stepRecord .handshake), .call .handshake, .call .session,
        .record (recoveredRecord .handshake)] := by
  have hr : lateSocket.Reaches .default 2 := by
    refine ⟨Nat.le_refl 2, fun i hi => ?_, fun i hi => ?_⟩
    · obtain rfl | rfl : i = 0 ∨ i = 1 := by omega
      · exact ⟨none, rfl, rfl⟩
      · exact ⟨none, rfl, rfl⟩
    · obtain rfl | rfl : i = 0 ∨ i = 1 := by omega
      · rfl
      · rfl
  exact .found 2 lateSession hr rfl (List.cons_ne_nil _ _)

end Session

end PeerCheck
