import PeerCheck.Proofs.Session.Socket

/-!
# The course of a recovery

A socket is checked before any step and after each, so a ladder of `n` steps has the checks `0` to
`n`, and step number `k` stands between the checks `k` and `k + 1`. `Ascent s l x es` says how far
the socket `s` lets the ladder `l` come: a check finds a usable session, a check or a step raises,
or every check is in vain. Each socket and ladder have exactly one course, and a recovery takes it.
-/

namespace PeerCheck.Session

open PeerCheck.Log Dialogue

/-- An answer that leaves the climb open: no fault, and no session with a certificate. -/
def Vain (r : Except Fault (Option Session)) : Prop := ∃ o, r = .ok o ∧ usable o = none

theorem usable_eq_none_iff {o : Option Session} :
    usable o = none ↔ ∀ x, o = some x → x.chain = [] := by
  cases o with
  | none => simp [usable]
  | some x => simp [usable]

theorem usable_of_ne_nil {x : Session} (h : x.chain ≠ []) : usable (some x) = some x := by
  simp [usable, h]

theorem of_usable {o : Option Session} {x : Session} (h : usable o = some x) :
    o = some x ∧ x.chain ≠ [] := by
  cases o with
  | none => cases h
  | some y =>
    simp only [usable, Option.ite_none_left_eq_some, Option.some.injEq, List.isEmpty_iff] at h
    exact ⟨congrArg some h.2, h.2 ▸ h.1⟩

namespace SecureSocket

/-- The fault that step number `k` meets; earlier steps of its kind had the earlier answers. -/
def stepFault (s : SecureSocket) (l : Ladder) (k : Nat) : Option Fault :=
  l[k]?.bind fun st => s.objection st.action ((l.take k).countP (·.action = st.action))

/-- Check number `k` takes place: the checks before it are in vain, and no step before it fails. -/
structure Reaches (s : SecureSocket) (l : Ladder) (k : Nat) : Prop where
  le : k ≤ l.length
  vain : ∀ i < k, Vain (s.answer i)
  fine : ∀ i < k, s.stepFault l i = none

/-- What happens up to the last check of a ladder: the first check, then for each step its record,
its action and the next check. -/
def rounds (s : SecureSocket) (l : Ladder) : List (Event SocketCall) :=
  .call s.ask :: l.flatMap fun st =>
    .record (stepRecord st) :: (s.callsOf st.action ++ [s.ask]).map .call

end SecureSocket

/-- The record of the step before check number `k`, which brought the session. -/
def recovered (l : Ladder) : Nat → List (Event SocketCall)
  | 0 => []
  | k + 1 => l[k]?.toList.map fun st => .record (recoveredRecord st)

/-- The course of a recovery: its outcome, none where it was in vain, and what happens in it. -/
inductive Ascent (s : SecureSocket) (l : Ladder) :
    Except Fault (Option Session) → List (Event SocketCall) → Prop
  | found (k : Nat) (x : Session) (h : s.Reaches l k) (ha : s.answer k = .ok (some x))
      (hx : x.chain ≠ []) :
      Ascent s l (.ok (some x))
        (s.rounds (l.take k) ++ (s.further k).map .call ++ recovered l k)
  | refused (k : Nat) (e : Fault) (h : s.Reaches l k) (ha : s.answer k = .error e) :
      Ascent s l (.error e) (s.rounds (l.take k) ++ (s.further k).map .call)
  | balked (k : Nat) (st : Step) (e : Fault) (h : s.Reaches l k) (hv : Vain (s.answer k))
      (hst : l[k]? = some st) (hf : s.stepFault l k = some e) :
      Ascent s l (.error e)
        (s.rounds (l.take k) ++ .record (stepRecord st) :: (s.callsOf st.action).map .call)
  | exhausted (h : s.Reaches l l.length) (hv : Vain (s.answer l.length)) :
      Ascent s l (.ok none) (s.rounds l)

def closing (l : Ladder) : Except Fault (Option Session) → List (Event SocketCall)
  | .ok none => [.record (exhaustedRecord l)]
  | .ok (some _) | .error _ => []

/-- The outcome of a recovery for those who cannot do without a session. -/
def conclude (l : Ladder) : Except Fault (Option Session) → Except Fault Session
  | .ok (some x) => .ok x
  | .ok none => .error (.unverified (exhausted l))
  | .error e => .error e

variable {s : SecureSocket} {l : Ladder} {x x' : Except Fault (Option Session)}
  {es es' : List (Event SocketCall)}

/-! ## No two courses -/

theorem not_vain_of_error {r : Except Fault (Option Session)} {e : Fault} (h : r = .error e) :
    ¬ Vain r := by
  rintro ⟨o, ho, -⟩
  rw [h] at ho
  cases ho

theorem not_vain_of_session {r : Except Fault (Option Session)} {x : Session}
    (h : r = .ok (some x)) (hx : x.chain ≠ []) : ¬ Vain r := by
  rintro ⟨o, ho, hu⟩
  rw [h] at ho
  cases ho
  rw [usable_of_ne_nil hx] at hu
  cases hu

namespace SecureSocket.Reaches

variable {k k' : Nat}

theorem le_of_not_vain (h : s.Reaches l k) (hn : ¬ Vain (s.answer k')) : k ≤ k' :=
  Nat.le_of_not_lt fun hlt => hn (h.vain k' hlt)

theorem le_of_fault {e : Fault} (h : s.Reaches l k) (hf : s.stepFault l k' = some e) : k ≤ k' := by
  refine Nat.le_of_not_lt fun hlt => ?_
  have hn := h.fine k' hlt
  rw [hf] at hn
  cases hn

theorem eq_of_not_vain (h : s.Reaches l k) (hn : ¬ Vain (s.answer k)) (h' : s.Reaches l k')
    (hn' : ¬ Vain (s.answer k')) : k = k' :=
  Nat.le_antisymm (h.le_of_not_vain hn') (h'.le_of_not_vain hn)

/-- Where a check decides, no step fails after a check in vain. -/
theorem not_balked (h : s.Reaches l k) (hn : ¬ Vain (s.answer k)) (h' : s.Reaches l k')
    (hv : Vain (s.answer k')) {e : Fault} : s.stepFault l k' ≠ some e := by
  intro hf
  have he : k = k' := Nat.le_antisymm (h.le_of_fault hf) (h'.le_of_not_vain hn)
  exact hn (he ▸ hv)

/-- Where a check decides, the last check is not in vain. -/
theorem not_exhausted (h : s.Reaches l k) (hn : ¬ Vain (s.answer k)) (h' : s.Reaches l l.length) :
    ¬ Vain (s.answer l.length) := by
  intro hv
  have he : k = l.length := Nat.le_antisymm h.le (h'.le_of_not_vain hn)
  exact hn (he ▸ hv)

/-- Where every check takes place, no step fails. -/
theorem fine_of_all (h : s.Reaches l l.length) {st : Step} (hst : l[k]? = some st) {e : Fault} :
    s.stepFault l k ≠ some e := by
  intro hf
  have hk : k < l.length := (List.getElem?_eq_some_iff.mp hst).1
  exact absurd (h.le_of_fault hf) (Nat.not_le_of_lt hk)

end SecureSocket.Reaches

theorem Ascent.unique (h : Ascent s l x es) (h' : Ascent s l x' es') : x = x' ∧ es = es' := by
  -- Of two courses that end at different places, the one that goes further passed the end of the
  -- other: there a check was in vain, or a step did not fail.
  cases h with
  | found k y hr ha hy =>
    have hn := not_vain_of_session ha hy
    cases h' with
    | found k' y' hr' ha' hy' =>
      have hk := hr.eq_of_not_vain hn hr' (not_vain_of_session ha' hy')
      subst hk
      rw [ha] at ha'
      cases ha'
      exact ⟨rfl, rfl⟩
    | refused k' e' hr' ha' =>
      have hk := hr.eq_of_not_vain hn hr' (not_vain_of_error ha')
      subst hk
      rw [ha] at ha'
      cases ha'
    | balked k' st' e' hr' hv' hst' hf' => exact absurd hf' (hr.not_balked hn hr' hv')
    | exhausted hr' hv' => exact absurd hv' (hr.not_exhausted hn hr')
  | refused k e hr ha =>
    have hn := not_vain_of_error ha
    cases h' with
    | found k' y' hr' ha' hy' =>
      have hk := hr.eq_of_not_vain hn hr' (not_vain_of_session ha' hy')
      subst hk
      rw [ha] at ha'
      cases ha'
    | refused k' e' hr' ha' =>
      have hk := hr.eq_of_not_vain hn hr' (not_vain_of_error ha')
      subst hk
      rw [ha] at ha'
      cases ha'
      exact ⟨rfl, rfl⟩
    | balked k' st' e' hr' hv' hst' hf' => exact absurd hf' (hr.not_balked hn hr' hv')
    | exhausted hr' hv' => exact absurd hv' (hr.not_exhausted hn hr')
  | balked k st e hr hv hst hf =>
    cases h' with
    | found k' y' hr' ha' hy' =>
      exact absurd hf (hr'.not_balked (not_vain_of_session ha' hy') hr hv)
    | refused k' e' hr' ha' => exact absurd hf (hr'.not_balked (not_vain_of_error ha') hr hv)
    | balked k' st' e' hr' hv' hst' hf' =>
      have hk := Nat.le_antisymm (hr.le_of_fault hf') (hr'.le_of_fault hf)
      subst hk
      rw [hst] at hst'
      rw [hf] at hf'
      cases hst'
      cases hf'
      exact ⟨rfl, rfl⟩
    | exhausted hr' hv' => exact absurd hf (hr'.fine_of_all hst)
  | exhausted hr hv =>
    cases h' with
    | found k' y' hr' ha' hy' =>
      exact absurd hv (hr'.not_exhausted (not_vain_of_session ha' hy') hr)
    | refused k' e' hr' ha' => exact absurd hv (hr'.not_exhausted (not_vain_of_error ha') hr)
    | balked k' st' e' hr' hv' hst' hf' => exact absurd hf' (hr.fine_of_all hst')
    | exhausted hr' hv' => exact ⟨rfl, rfl⟩

/-! ## Sockets that answer alike -/

/-- Nothing that is asked of two sockets tells them apart. -/
structure Alike (s t : SecureSocket) : Prop where
  answer : ∀ i, s.answer i = t.answer i
  objection : ∀ a i, s.objection a i = t.objection a i
  ask : s.ask = t.ask
  further : ∀ i, s.further i = t.further i
  callsOf : ∀ a, s.callsOf a = t.callsOf a

namespace Alike

variable {t : SecureSocket}

theorem stepFault (h : Alike s t) (l : Ladder) (k : Nat) : s.stepFault l k = t.stepFault l k := by
  simp only [SecureSocket.stepFault, h.objection]

theorem rounds (h : Alike s t) (l : Ladder) : s.rounds l = t.rounds l := by
  simp only [SecureSocket.rounds, h.ask, h.callsOf]

theorem reaches {k : Nat} (h : Alike s t) (hr : s.Reaches l k) : t.Reaches l k where
  le := hr.le
  vain i hi := h.answer i ▸ hr.vain i hi
  fine i hi := h.stepFault l i ▸ hr.fine i hi

/-- Sockets that answer alike take the same course. -/
theorem ascent (h : Alike s t) (hc : Ascent s l x es) : Ascent t l x es := by
  cases hc with
  | found k y hr ha hy =>
    rw [h.rounds, h.further]
    exact .found k y (h.reaches hr) (h.answer k ▸ ha) hy
  | refused k e hr ha =>
    rw [h.rounds, h.further]
    exact .refused k e (h.reaches hr) (h.answer k ▸ ha)
  | balked k st e hr hv hst hf =>
    rw [h.rounds, h.callsOf]
    exact .balked k st e (h.reaches hr) (h.answer k ▸ hv) hst (h.stepFault l k ▸ hf)
  | exhausted hr hv =>
    rw [h.rounds]
    exact .exhausted (h.reaches hr) (h.answer _ ▸ hv)

end Alike

/-! ## From the rest of a ladder to the ladder -/

theorem SecureSocket.rounds_cons (s : SecureSocket) (st : Step) (l : Ladder) :
    s.rounds (st :: l) = .call s.ask :: .record (stepRecord st) ::
      ((s.callsOf st.action).map .call ++ (s.asked.acted st.action).rounds l) := by
  simp [SecureSocket.rounds]

theorem SecureSocket.stepFault_zero (s : SecureSocket) (st : Step) (l : Ladder) :
    s.stepFault (st :: l) 0 = s.objection st.action 0 := rfl

/-- The first step has used up one answer of its kind. -/
theorem SecureSocket.stepFault_succ (s : SecureSocket) (st : Step) (l : Ladder) (k : Nat) :
    s.stepFault (st :: l) (k + 1) = (s.asked.acted st.action).stepFault l k := by
  unfold SecureSocket.stepFault
  rw [List.getElem?_cons_succ]
  cases l[k]? with
  | none => rfl
  | some st' =>
    simp only [Option.bind_some, List.take_succ_cons, List.countP_cons, decide_eq_true_eq]
    by_cases h : st.action = st'.action
    · rw [if_pos h, ← h, SecureSocket.objection_acted_self, SecureSocket.objection_asked]
    · rw [if_neg h, SecureSocket.objection_acted_of_ne _ _ h, SecureSocket.objection_asked,
        Nat.add_zero]

section

variable {st : Step} (hv : Vain (s.answer 0)) (hf : s.objection st.action 0 = none)

include hv hf

theorem SecureSocket.Reaches.cons {k : Nat} (h : (s.asked.acted st.action).Reaches l k) :
    s.Reaches (st :: l) (k + 1) where
  le := Nat.succ_le_succ h.le
  vain := by
    intro i hi
    cases i with
    | zero => exact hv
    | succ i =>
      have hi' := h.vain i (Nat.lt_of_succ_lt_succ hi)
      rw [SecureSocket.answer_acted, SecureSocket.answer_asked] at hi'
      exact hi'
  fine := by
    intro i hi
    cases i with
    | zero => rw [SecureSocket.stepFault_zero, hf]
    | succ i =>
      rw [SecureSocket.stepFault_succ]
      exact h.fine i (Nat.lt_of_succ_lt_succ hi)

/-- A course of the rest, in which a further check is in vain, is one of the whole. -/
theorem Ascent.cons (hv' : Vain (s.answer 1)) (h : Ascent (s.asked.acted st.action) l x es) :
    Ascent s (st :: l) x
      (.call s.ask :: .record (stepRecord st) :: ((s.callsOf st.action).map .call ++ es)) := by
  cases h with
  | found k y hr ha hy =>
    rw [SecureSocket.answer_acted, SecureSocket.answer_asked] at ha
    cases k with
    -- A session at the first check of the rest would have the record of the first step after it.
    | zero => exact absurd hv' (not_vain_of_session ha hy)
    | succ k =>
      have h := Ascent.found (k + 2) y (hr.cons hv hf) ha hy
      rw [List.take_succ_cons, SecureSocket.rounds_cons] at h
      simpa [recovered] using h
  | refused k e hr ha =>
    rw [SecureSocket.answer_acted, SecureSocket.answer_asked] at ha
    have h := Ascent.refused (k + 1) e (hr.cons hv hf) ha
    rw [List.take_succ_cons, SecureSocket.rounds_cons] at h
    simpa using h
  | balked k st' e hr hv'' hst hf' =>
    rw [SecureSocket.answer_acted, SecureSocket.answer_asked] at hv''
    rw [← SecureSocket.stepFault_succ] at hf'
    have h := Ascent.balked (k + 1) st' e (hr.cons hv hf) hv'' hst hf'
    rw [List.take_succ_cons, SecureSocket.rounds_cons] at h
    simpa using h
  | exhausted hr hv'' =>
    rw [SecureSocket.answer_acted, SecureSocket.answer_asked] at hv''
    have h := Ascent.exhausted (hr.cons hv hf) hv''
    rw [SecureSocket.rounds_cons] at h
    exact h

end

/-! ## A recovery takes its course -/

theorem SecureSocket.Reaches.zero (s : SecureSocket) (l : Ladder) : s.Reaches l 0 where
  le := Nat.zero_le _
  vain := fun _ hi => absurd hi (Nat.not_lt_zero _)
  fine := fun _ hi => absurd hi (Nat.not_lt_zero _)

/-- The chain is not read in vain. -/
theorem SecureSocket.further_of_vain {i : Nat} (h : Vain (s.answer i)) : s.further i = [] := by
  cases s with
  | stack s => rfl
  | tls s =>
    obtain ⟨o, ho, hu⟩ : Vain (heard (orYet (s.certificate.nth i)) >>= s.sessionWith) := h
    simp only [SecureSocket.further]
    split
    · next b bs hc =>
      rw [hc] at ho
      obtain ⟨x, leaf, rest, hx, hchain, -⟩ := TlsSocket.session_cases ho
      exact absurd ((usable_eq_none_iff.mp hu x hx).symm.trans hchain) (List.cons_ne_nil leaf rest).symm
    · rfl

theorem ends_attempt_error {st : Step} {e : Fault} (h : s.objection st.action 0 = some e) :
    Ends (attempt st) s (.record (stepRecord st) :: (s.callsOf st.action).map .call) (.error e)
      (s.acted st.action) := by
  have ha := ends_action st.action s
  rw [h] at ha
  exact (Ends.emit _).bind ha.bind_error

theorem ends_attempt {st : Step} (h : s.objection st.action 0 = none) :
    Ends (attempt st) s
      (.record (stepRecord st) :: ((s.callsOf st.action).map .call ++
        (s.ask :: s.further 0).map .call))
      (usable <$> s.answer 0) (s.acted st.action).asked := by
  have ha := ends_action st.action s
  rw [h] at ha
  have hg := ends_getSession (s.acted st.action)
  rw [SecureSocket.ask_acted, SecureSocket.further_acted, SecureSocket.answer_acted] at hg
  exact (Ends.emit _).bind (ha.bind (hg.bind_pure fun o => Ends.pure (usable o)))

theorem ends_climb_found {st : Step} {y : Session} {s' : SecureSocket} (l : Ladder)
    (h : Ends (attempt st) s es (.ok (some y)) s') :
    Ends (climb (st :: l)) s (es ++ [.record (recoveredRecord st)]) (.ok (some y)) s' :=
  h.bind ((Ends.emit _).bind (Ends.pure _))

theorem ends_climb_next {st : Step} {s' s'' : SecureSocket}
    (h : Ends (attempt st) s es (.ok none) s') (hc : Ends (climb l) s' es' x s'') :
    Ends (climb (st :: l)) s (es ++ es') x s'' :=
  h.bind hc

/-- After a check in vain, the climb goes on with the course of the ladder. -/
theorem climb_ascends (l : Ladder) : ∀ {s : SecureSocket}, Vain (s.answer 0) →
    ∃ es x s', Ends (climb l) s.asked es x s' ∧ Ascent s l x (.call s.ask :: es) := by
  -- The socket before the check in vain is kept in the statement: its check is number 0 of the
  -- course, and the check after the first step is number 0 of the rest.
  induction l with
  | nil =>
    intro s hv
    exact ⟨[], .ok none, s.asked, Ends.pure none, Ascent.exhausted (.zero s []) hv⟩
  | cons st l ih =>
    intro s hv
    cases hf : s.objection st.action 0 with
    | some e =>
      have ha : Ends (attempt st) s.asked _ (.error e) _ :=
        ends_attempt_error (by rw [SecureSocket.objection_asked, hf])
      refine ⟨_, _, _, ha.bind_error, ?_⟩
      have h := Ascent.balked 0 st e (.zero s (st :: l)) hv rfl hf
      simpa [SecureSocket.rounds] using h
    | none =>
      have ha : Ends (attempt st) s.asked _ (usable <$> s.asked.answer 0) _ :=
        ends_attempt (by rw [SecureSocket.objection_asked, hf])
      rw [SecureSocket.answer_asked] at ha
      have hr : s.Reaches (st :: l) 1 := SecureSocket.Reaches.cons hv hf (.zero _ l)
      cases hans : s.answer 1 with
      | error e =>
        rw [hans] at ha
        refine ⟨_, _, _, ha.bind_error, ?_⟩
        have h := Ascent.refused 1 e hr hans
        simpa [SecureSocket.rounds] using h
      | ok o =>
        rw [hans] at ha
        change Ends _ _ _ (.ok (usable o)) _ at ha
        cases hu : usable o with
        | some y =>
          rw [hu] at ha
          obtain ⟨rfl, hy⟩ := of_usable hu
          refine ⟨_, _, _, ends_climb_found l ha, ?_⟩
          have h := Ascent.found 1 y hr hans hy
          simpa [SecureSocket.rounds, recovered] using h
        | none =>
          rw [hu] at ha
          have hv' : Vain (s.answer 1) := ⟨o, hans, hu⟩
          have hvt : Vain ((s.asked.acted st.action).answer 0) := by
            rw [SecureSocket.answer_acted, SecureSocket.answer_asked]
            exact hv'
          obtain ⟨es, x, s', hc, h⟩ := ih hvt
          have h := h.cons hv hf hv'
          refine ⟨_, x, s', ends_climb_next ha hc, ?_⟩
          simpa [SecureSocket.further_of_vain hv'] using h

/-- What follows a climb: only one in vain is reported. -/
theorem ends_closing {s' : SecureSocket} (h : Ends (climb l) s es x s') :
    Ends (do
        match ← climb l with
        | some session => pure (some session)
        | none =>
          emit (exhaustedRecord l)
          pure none)
      s (es ++ closing l x) x s' := by
  match x, h with
  | .error e, h =>
    rw [closing, List.append_nil]
    exact h.bind_error
  | .ok (some y), h => exact h.bind (Ends.pure _)
  | .ok none, h => exact h.bind ((Ends.emit _).bind (Ends.pure _))

theorem recover_ascends (s : SecureSocket) (l : Ladder) :
    ∃ es x s', Ends (recover l) s (es ++ closing l x) x s' ∧ Ascent s l x es := by
  have hg := ends_getSession s
  have hr := SecureSocket.Reaches.zero s l
  cases hans : s.answer 0 with
  | error e =>
    rw [hans] at hg
    refine ⟨_, .error e, s.asked, ?_, Ascent.refused 0 e hr hans⟩
    have hb : Ends (recover l) s _ (.error e) s.asked := hg.bind_error
    simpa [SecureSocket.rounds, closing] using hb
  | ok o =>
    rw [hans] at hg
    cases hu : usable o with
    | some y =>
      obtain ⟨rfl, hy⟩ := of_usable hu
      have hb : Ends (recover l) s _ (.ok (some y)) s.asked :=
        hg.bind (by rw [hu]; exact Ends.pure _)
      refine ⟨_, _, s.asked, ?_, Ascent.found 0 y hr hans hy⟩
      simpa [SecureSocket.rounds, recovered, closing] using hb
    | none =>
      have hv : Vain (s.answer 0) := ⟨o, hans, hu⟩
      rw [SecureSocket.further_of_vain hv] at hg
      obtain ⟨es, x, s', hc, h⟩ := climb_ascends l hv
      refine ⟨_, x, s', ?_, h⟩
      exact hg.bind (by rw [hu]; exact ends_closing hc)

theorem resolve_ascends (s : SecureSocket) (l : Ladder) :
    ∃ es x s', Ends (resolve l) s (es ++ closing l x) (conclude l x) s' ∧ Ascent s l x es := by
  obtain ⟨es, x, s', hr, h⟩ := recover_ascends s l
  refine ⟨es, x, s', ?_, h⟩
  rw [← List.append_nil (es ++ closing l x)]
  match x, hr with
  | .error e, hr =>
    rw [List.append_nil]
    exact hr.bind_error
  | .ok (some y), hr => exact hr.bind (Ends.pure _)
  | .ok none, hr => exact hr.bind (Ends.throw _)

/-- The course of a recovery, for whoever holds the dialogue with the socket. -/
theorem Ascent.converse_resolve (h : Ascent s l x es) :
    ((Candidate.socket s).converse (resolve l)).outcome = conclude l x ∧
      ((Candidate.socket s).converse (resolve l)).trail = es ++ closing l x := by
  obtain ⟨es', x', s', hr, h'⟩ := resolve_ascends s l
  obtain ⟨rfl, rfl⟩ := h.unique h'
  rw [hr.converse]
  exact ⟨rfl, rfl⟩

end PeerCheck.Session
