import PeerCheck.Proofs.Verification

/-!
# A verification does not close the socket

Whatever a verification comes to, it leaves the socket it was held with: a TLS socket stays one, it
is as open as before, and closing it is not among the calls (`exists_ends_verifyHost`).
-/

namespace PeerCheck.Session

open PeerCheck.Log Dialogue

def SecureSocket.closed? : SecureSocket → Option Bool
  | .stack _ => none
  | .tls s => some s.closed

theorem SecureSocket.exists_tls {s : TlsSocket} {u : SecureSocket}
    (h : u.closed? = (SecureSocket.tls s).closed?) : ∃ s', u = .tls s' ∧ s'.closed = s.closed := by
  cases u with
  | stack u => cases h
  | tls s' => exact ⟨s', rfl, Option.some.inj h⟩

@[simp] theorem SecureSocket.closed?_asked (s : SecureSocket) : s.asked.closed? = s.closed? := by
  cases s <;> rfl

@[simp] theorem SecureSocket.closed?_acted (s : SecureSocket) (a : Action) :
    (s.acted a).closed? = s.closed? := by
  cases s <;> cases a <;> rfl

/-- The dialogue goes on with a socket of the same kind, closed only if it was. -/
def Talk.Keeps (t u : Talk) : Prop := u.socket.closed? = t.socket.closed?

instance : IsPreorder Talk Talk.Keeps where
  refl _ := rfl
  trans _ _ _ h h' := Eq.trans h' h

/-- One check or one action, or neither. -/
inductive SecureSocket.Moves (s : SecureSocket) : SecureSocket → Prop
  | stays : Moves s s
  | asked : Moves s s.asked
  | acted (a : Action) : Moves s (s.acted a)

/-- The relation holds wherever the socket makes one move, whatever is noted. -/
def Steady (R : Talk → Talk → Prop) : Prop :=
  ∀ t s' trail, t.socket.Moves s' → R t ⟨s', trail⟩

theorem steady_keeps : Steady Talk.Keeps := by
  rintro ⟨s, _⟩ s' trail hm
  show s'.closed? = s.closed?
  cases hm with
  | stays => rfl
  | asked => exact s.closed?_asked
  | acted a => exact s.closed?_acted a

section Leads

variable {α : Type} {d : Dialogue α} {R : Talk → Talk → Prop} (hR : Steady R)

include hR

theorem leads_of_ends (h : ∀ s, ∃ es r s', Ends d s es r s' ∧ s.Moves s') : Leads R d := by
  rintro ⟨s, trail⟩
  obtain ⟨es, r, s', he, hm⟩ := h s
  rw [he trail]
  exact hR _ s' _ hm

theorem leads_emitAll (rs : List Record) : Leads R (emitAll rs) :=
  leads_of_ends hR fun s => ⟨_, _, s, Ends.emitAll rs, .stays⟩

theorem leads_emit (r : Record) : Leads R (emit r) :=
  leads_of_ends hR fun s => ⟨_, _, s, Ends.emit r, .stays⟩

theorem leads_getSession : Leads R getSession :=
  leads_of_ends hR fun s => ⟨_, _, _, ends_getSession s, .asked⟩

theorem leads_action (a : Action) : Leads R a.run :=
  leads_of_ends hR fun s => ⟨_, _, _, ends_action a s, .acted a⟩

variable [IsPreorder Talk R]

theorem leads_attempt (st : Step) : Leads R (attempt st) :=
  (leads_emit hR _).bind fun _ => (leads_action hR _).bind fun _ =>
    (leads_getSession hR).bind fun _ => .pure _

theorem leads_climb (l : Ladder) : Leads R (climb l) := by
  induction l with
  | nil => exact .pure none
  | cons st l ih =>
    refine (leads_attempt hR st).bind fun o => ?_
    cases o with
    | some session => exact (leads_emit hR _).bind fun _ => .pure _
    | none => exact ih

theorem leads_recover (l : Ladder) : Leads R (recover l) := by
  refine (leads_getSession hR).bind fun o => ?_
  cases usable o with
  | some session => exact .pure _
  | none =>
    refine (leads_climb hR l).bind fun o => ?_
    cases o with
    | some session => exact .pure _
    | none => exact (leads_emit hR _).bind fun _ => .pure _

theorem leads_resolve (l : Ladder) : Leads R (resolve l) := by
  refine (leads_recover hR l).bind fun o => ?_
  cases o with
  | some session => exact .pure _
  | none => exact .throw _

theorem leads_resolveOrLack (l : Ladder) : Leads R (resolveOrLack l) := by
  refine ((leads_resolve hR l).map _).tryCatch fun e => ?_
  cases e with
  | unverified u =>
    dsimp only
    split
    · exact .pure _
    · exact .throw _
  | _ => exact .throw _

theorem leads_verifySession (x : Session) (host : String) : Leads R (verifySession x host) :=
  (Leads.ofExcept _).bind fun _ => (leads_emitAll hR _).bind fun _ => .pure _

theorem leads_verify (l : Ladder) (host : String) : Leads R (verify l (some host)) := by
  refine (leads_resolveOrLack hR l).bind fun o => ?_
  cases o with
  | error u => exact .pure _
  | ok x => exact leads_verifySession hR x host

/-- A verification leads to whatever a check and an action lead to. -/
theorem leads_verifyHost (l : Ladder) (host : String) : Leads R (verifyHost l (some host)) :=
  (leads_verify hR l host).bind fun _ => .ofExcept _

end Leads

theorem close_notMem_reports (j : Except Fault (Verdict × List Record)) :
    (.call .close : Event SocketCall) ∉ reports j := by
  cases j with
  | ok p => simp [reports]
  | error e => exact List.not_mem_nil

/-- A verification of a TLS socket leaves it as open as it was. -/
theorem exists_ends_verifyHost (s : TlsSocket) (l : Ladder) (host : String) :
    ∃ es r s', Ends (verifyHost l (some host)) (.tls s) es r (.tls s') ∧ s'.closed = s.closed ∧
      .call .close ∉ es := by
  obtain ⟨es, x, u, hres, hasc⟩ := resolve_ascends (.tls s) l
  have h := ends_verifyHost (ends_verify hres host)
  obtain ⟨s', rfl, hc⟩ := SecureSocket.exists_tls ((leads_verifyHost steady_keeps l host).of_run (h []))
  refine ⟨_, _, s', h, hc, ?_⟩
  rw [List.mem_append, List.mem_append, not_or, not_or]
  exact ⟨⟨hasc.close_notMem, close_notMem_closing l x⟩, close_notMem_reports _⟩

variable {s s' : TlsSocket} {l : Ladder} {host : String} {es : List (Event SocketCall)}
  {r : Except Fault Verdict}

/-- What a verification does not do. -/
theorem unclosed_of_verifyHost
    (h : (Candidate.socket (.tls s)).verifyHost l (some host) = ⟨r, es, .socket (.tls s')⟩) :
    s'.closed = s.closed ∧ .call .close ∉ es := by
  obtain ⟨es', r', u, hv, hc, hn⟩ := exists_ends_verifyHost s l host
  have hx : (Candidate.socket (.tls s)).verifyHost l (some host) = ⟨r', es', .socket (.tls u)⟩ :=
    hv.converse
  cases hx.symm.trans h
  exact ⟨hc, hn⟩

/-- Only a pass is let through. -/
theorem failure_of_verifyHost {c : Candidate} {v : Verdict}
    (h : (Candidate.socket (.tls s)).verifyHost l (some host) = ⟨.ok v, es, c⟩) :
    v.failure = none := by
  have ho := outcome_verifyHost (.tls s) l host
  rw [h] at ho
  obtain ⟨v', -, hv⟩ := exists_of_bind_eq_ok ho.symm
  exact (Verdict.require_eq_ok_iff.mp hv).2

end PeerCheck.Session
