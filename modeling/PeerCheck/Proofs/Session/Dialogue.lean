import PeerCheck.Proofs.Run
import PeerCheck.Session.Dialogue

/-!
# How dialogues end

`Ends d s es r s'` says what a dialogue does with a socket: it adds the events `es` to the trail,
whatever stood there, its outcome is `r`, and it leaves the socket `s'`. There is one rule for each
way dialogues are put together, and one for each thing a dialogue does by itself.
-/

namespace PeerCheck.Session

open PeerCheck.Log

variable {α β : Type} {s s' s'' : SecureSocket} {es es' : List (Event SocketCall)} {e : Fault}

/-- With the socket `s` the dialogue adds `es` to the trail, has the outcome `r` and leaves `s'`. -/
def Ends (d : Dialogue α) (s : SecureSocket) (es : List (Event SocketCall)) (r : Except Fault α)
    (s' : SecureSocket) : Prop :=
  ∀ trail, d.run ⟨s, trail⟩ = (r, ⟨s', trail ++ es⟩)

def refusal : Option Fault → Except Fault Unit
  | none => .ok ()
  | some e => .error e

theorem refusal_eq_ok_iff {o : Option Fault} {u : Unit} : refusal o = .ok u ↔ o = none := by
  cases o with
  | none => exact ⟨fun _ => rfl, fun _ => rfl⟩
  | some e => exact ⟨nofun, nofun⟩

theorem refusal_eq_error_iff {o : Option Fault} {e : Fault} :
    refusal o = .error e ↔ o = some e := by
  cases o with
  | none => exact ⟨nofun, nofun⟩
  | some e' => exact ⟨fun h => by cases h; rfl, fun h => by cases h; rfl⟩

namespace Ends

theorem converse {d : Dialogue α} {r : Except Fault α} (h : Ends d s es r s') :
    (Candidate.socket s).converse d = ⟨r, es, .socket s'⟩ := by
  simp only [Candidate.converse, Candidate.asSocket]
  rw [h []]
  rfl

theorem unique {d : Dialogue α} {r r' : Except Fault α} (h : Ends d s es r s')
    (h' : Ends d s es' r' s'') : r = r' ∧ es = es' ∧ s' = s'' := by
  have he := h.converse.symm.trans h'.converse
  cases he
  exact ⟨rfl, rfl, rfl⟩

/-! ## Dialogues put together -/

protected theorem pure (a : α) : Ends (pure a) s [] (.ok a) s := by
  intro trail
  rw [List.append_nil]
  rfl

protected theorem throw (e : Fault) : Ends (throw e : Dialogue α) s [] (.error e) s := by
  intro trail
  rw [List.append_nil]
  rfl

theorem bind {d : Dialogue α} {k : α → Dialogue β} {a : α} {r : Except Fault β}
    (h : Ends d s es (.ok a) s') (hk : Ends (k a) s' es' r s'') :
    Ends (d >>= k) s (es ++ es') r s'' := by
  intro trail
  rw [run_bind, h trail]
  show (k a).run _ = _
  rw [hk, List.append_assoc]

theorem bind_error {d : Dialogue α} {k : α → Dialogue β} (h : Ends d s es (.error e) s') :
    Ends (d >>= k) s es (.error e) s' := by
  intro trail
  rw [run_bind, h trail]

/-- What follows a dialogue without events of its own adds nothing in front. -/
theorem bind_silent {d : Dialogue α} {k : α → Dialogue β} {a : α} {r : Except Fault β}
    (h : Ends d s [] (.ok a) s') (hk : Ends (k a) s' es r s'') : Ends (d >>= k) s es r s'' :=
  h.bind hk

/-- What is computed from an outcome without further events. -/
theorem bind_pure {d : Dialogue α} {k : α → Dialogue β} {r : Except Fault α}
    {f : α → Except Fault β} (h : Ends d s es r s') (hk : ∀ a, Ends (k a) s' [] (f a) s') :
    Ends (d >>= k) s es (r >>= f) s' := by
  cases r with
  | ok a =>
    rw [← List.append_nil es]
    exact h.bind (hk a)
  | error e => exact h.bind_error

theorem map {d : Dialogue α} {r : Except Fault α} (f : α → β) (h : Ends d s es r s') :
    Ends (f <$> d) s es (f <$> r) s' := by
  rw [map_eq_pure_bind, map_eq_pure_bind]
  exact h.bind_pure fun a => Ends.pure (f a)

theorem tryCatch_ok {d : Dialogue α} {k : Fault → Dialogue α} {a : α} (h : Ends d s es (.ok a) s') :
    Ends (tryCatch d k) s es (.ok a) s' := by
  intro trail
  rw [run_tryCatch, h trail]

theorem tryCatch_error {d : Dialogue α} {k : Fault → Dialogue α} {r : Except Fault α}
    (h : Ends d s es (.error e) s') (hk : Ends (k e) s' es' r s'') :
    Ends (tryCatch d k) s (es ++ es') r s'' := by
  intro trail
  rw [run_tryCatch, h trail]
  show (k e).run _ = _
  rw [hk, List.append_assoc]

protected theorem tryFinally {d : Dialogue α} {f : Dialogue β} {r : Except Fault α} {b : β}
    (h : Ends d s es r s') (hf : Ends f s' es' (.ok b) s'') :
    Ends (tryFinally d f) s (es ++ es') r s'' := by
  intro trail
  rw [run_tryFinally, h trail]
  dsimp only
  rw [hf, List.append_assoc]

/-! ## Single deeds -/

theorem get {k : Talk → Dialogue α} {r : Except Fault α}
    (h : ∀ t : Talk, t.socket = s → Ends (k t) s es r s') :
    Ends (MonadState.get >>= k) s es r s' := by
  intro trail
  rw [run_bind]
  exact h ⟨s, trail⟩ rfl trail

theorem note (e : Event SocketCall) : Ends (Dialogue.note e) s [e] (.ok ()) s := fun _ => rfl

theorem call (c : SocketCall) : Ends (Dialogue.call c) s [.call c] (.ok ()) s := fun _ => rfl

theorem emit (r : Record) : Ends (Dialogue.emit r) s [.record r] (.ok ()) s := fun _ => rfl

theorem emitAll (rs : List Record) :
    Ends (Dialogue.emitAll rs) s (rs.map .record) (.ok ()) s := by
  induction rs with
  | nil => exact Ends.pure ()
  | cons r rs ih => exact (emit r).bind ih

theorem setSocket (s' : SecureSocket) : Ends (Dialogue.setSocket s') s [] (.ok ()) s' := by
  intro trail
  rw [List.append_nil]
  rfl

protected theorem ofExcept (r : Except Fault α) : Ends (ofExcept r : Dialogue α) s [] r s := by
  cases r with
  | ok a => exact Ends.pure a
  | error e => exact Ends.throw e

theorem check (o : Option SocketFault) :
    Ends (Dialogue.check o) s [] (refusal (o.map Subtype.val)) s := by
  cases o with
  | none => exact Ends.pure ()
  | some e => exact Ends.throw e.val

end Ends

end PeerCheck.Session
