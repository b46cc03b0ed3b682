import PeerCheck.Proofs.Session.Ladder
import PeerCheck.Proofs.Verdict
import Mathlib

/-!
# Verification is fail-closed

A verification is a recovery, and then the verdict on the subject of the certificate that comes
first in the session (`ends_verify`). From this follow the exact conditions of a pass, of each
failure and of each fault, and that the strict form differs in its outcome alone.
-/

namespace PeerCheck.Session

open PeerCheck.Cert PeerCheck.Host PeerCheck.Log

/-- What a recovery comes to for a host: the verdict with its records. -/
def judge (host : String) : Except Fault Session → Except Fault (Verdict × List Record)
  | .ok x => verifyCertificate (leafOf x) (some host)
  | .error e =>
    match e.lack? with
    | some u => .ok (lacking host u, [])
    | none => .error e

theorem judge_of_lack {e : Fault} {u : Unverified} (h : e.lack? = some u) (host : String) :
    judge host (.error e) = .ok (lacking host u, []) := by
  simp only [judge, h]

theorem judge_of_not_lack {e : Fault} (h : e.lack? = none) (host : String) :
    judge host (.error e) = .error e := by
  simp only [judge, h]

/-- The records of reaching a verdict. -/
def reports : Except Fault (Verdict × List Record) → List (Event SocketCall)
  | .ok (_, rs) => rs.map .record
  | .error _ => []

variable {s s' : SecureSocket} {l : Ladder} {es : List (Event SocketCall)} {host : String}

theorem ends_verifySession (s : SecureSocket) (x : Session) (host : String) :
    Ends (verifySession x host) s (reports (judge host (.ok x)))
      (Prod.fst <$> judge host (.ok x)) s := by
  have hj : Ends (ofExcept (judge host (.ok x))) s [] (judge host (.ok x)) s := Ends.ofExcept _
  show Ends (ofExcept (judge host (.ok x)) >>= fun p => do
    Dialogue.emitAll p.2
    pure p.1) s _ _ s
  cases h : judge host (.ok x) with
  | error e =>
    rw [h] at hj
    exact hj.bind_error
  | ok p =>
    rw [h] at hj
    refine hj.bind_silent ?_
    have he := (Ends.emitAll (s := s) p.2).bind (k := fun _ => pure p.1) (Ends.pure p.1)
    rw [List.append_nil] at he
    exact he

theorem ends_resolveOrLack_ok {x : Session} (h : Ends (resolve l) s es (.ok x) s') :
    Ends (resolveOrLack l) s es (.ok (.ok x)) s' :=
  (h.map Except.ok).tryCatch_ok

/-- The lack of a session is taken as an answer, any other fault is passed on. -/
theorem ends_resolveOrLack_error {e : Fault} (h : Ends (resolve l) s es (.error e) s') :
    Ends (resolveOrLack l) s es
      (match e.lack? with
        | some u => .ok (.error u)
        | none => .error e) s' := by
  have hm : Ends (Except.ok <$> resolve l : Dialogue (Except Unverified Session)) s es (.error e)
      s' := h.map _
  rw [← List.append_nil es]
  refine hm.tryCatch_error ?_
  cases e with
  | unverified u =>
    simp only [Fault.lack?]
    by_cases hu : u.failure = .sessionUnavailable
    · simp only [if_pos hu]
      exact Ends.pure _
    · simp only [if_neg hu]
      exact Ends.throw _
  | _ => exact Ends.throw _

/-- A verification is a recovery with a judgement after it. -/
theorem ends_verify {r : Except Fault Session} (h : Ends (resolve l) s es r s') (host : String) :
    Ends (verify l (some host)) s (es ++ reports (judge host r))
      (Prod.fst <$> judge host r) s' := by
  cases r with
  | ok x => exact (ends_resolveOrLack_ok h).bind (ends_verifySession s' x host)
  | error e =>
    have hr := ends_resolveOrLack_error h
    cases hl : e.lack? with
    | some u =>
      rw [hl] at hr
      rw [judge_of_lack hl]
      exact hr.bind (Ends.pure _)
    | none =>
      rw [hl] at hr
      rw [judge_of_not_lack hl, reports, List.append_nil]
      exact hr.bind_error

/-! ## The judgement -/

/-- A session is obtained, and `t` is what comes of writing the subject of its first certificate. -/
def Shows (r : Except Fault Session) (t : Except Fault String) : Prop :=
  ∃ x leaf rest, r = .ok x ∧ x.chain = leaf :: rest ∧ leaf.subject.render = t

theorem shows_ok_iff {x : Session} {leaf : Certificate} {rest : List Certificate}
    {t : Except Fault String} (h : x.chain = leaf :: rest) :
    Shows (.ok x) t ↔ leaf.subject.render = t := by
  constructor
  · rintro ⟨y, leaf', rest', hy, hc, hs⟩
    cases hy
    rw [h] at hc
    cases hc
    exact hs
  · intro hs
    exact ⟨x, leaf, rest, rfl, h, hs⟩

theorem not_shows_error {e : Fault} {t : Except Fault String} : ¬ Shows (.error e) t := by
  rintro ⟨_, _, _, h, -⟩
  cases h

theorem lacks_error_iff {e : Fault} : Lacks (.error e) ↔ e.lacksSession = true := by
  constructor
  · rintro ⟨e', h, hl⟩
    cases h
    exact hl
  · intro hl
    exact ⟨e, rfl, hl⟩

theorem leafOf_of_chain {x : Session} {leaf : Certificate} {rest : List Certificate}
    (h : x.chain = leaf :: rest) : leafOf x = leaf := by
  rw [leafOf, leaf?, h, List.head?_cons, Option.getD_some]

theorem judge_ok {x : Session} {leaf : Certificate} {rest : List Certificate}
    (h : x.chain = leaf :: rest) (host : String) :
    judge host (.ok x) =
      leaf.subject.render.map fun s => (Verdict.ofSubject s host, Verdict.records s host) := by
  rw [judge, leafOf_of_chain h, verifyCertificate_some]

section

variable {r : Except Fault Session} (hr : ∀ x, r = .ok x → x.chain ≠ [])

include hr

theorem judge_failure_iff {f : Option Failure} :
    (∃ w, Prod.fst <$> judge host r = .ok w ∧ w.failure = f) ↔
      (∃ subject, Shows r (.ok subject) ∧ (Verdict.ofSubject subject host).failure = f) ∨
        Lacks r ∧ f = some .sessionUnavailable := by
  cases r with
  | ok x =>
    obtain ⟨leaf, rest, hchain⟩ := List.exists_cons_of_ne_nil (hr x rfl)
    have hl : ¬ Lacks (.ok x) := by
      rintro ⟨e, h, -⟩
      cases h
    rw [judge_ok hchain, or_iff_left (fun h => hl h.1)]
    simp only [shows_ok_iff hchain]
    cases leaf.subject.render with
    | error e => simp [Except.map]
    | ok subject => simp [Except.map]
  | error e =>
    rw [lacks_error_iff, or_iff_right (fun ⟨_, h, _⟩ => not_shows_error h), Fault.lacksSession]
    cases hl : e.lack? with
    | some u =>
      rw [judge_of_lack hl]
      constructor
      · rintro ⟨w, hw, hf⟩
        cases hw
        exact ⟨rfl, hf.symm⟩
      · rintro ⟨-, rfl⟩
        exact ⟨_, rfl, rfl⟩
    | none =>
      rw [judge_of_not_lack hl]
      simp

theorem judge_error_iff {e : Fault} :
    Prod.fst <$> judge host r = .error e ↔
      (r = .error e ∧ e.lacksSession = false) ∨ Shows r (.error e) := by
  cases r with
  | ok x =>
    obtain ⟨leaf, rest, hchain⟩ := List.exists_cons_of_ne_nil (hr x rfl)
    rw [judge_ok hchain, shows_ok_iff hchain, or_iff_right (fun h => by cases h.1)]
    cases leaf.subject.render with
    | error e' => simp [Except.map]
    | ok subject => simp [Except.map]
  | error e' =>
    rw [or_iff_left not_shows_error, Fault.lacksSession, Option.isSome_eq_false_iff,
      Option.isNone_iff_eq_none]
    cases hl : e'.lack? with
    | some u =>
      rw [judge_of_lack hl]
      constructor
      · intro h
        cases h
      · rintro ⟨h, hn⟩
        cases h
        rw [hl] at hn
        cases hn
    | none =>
      rw [judge_of_not_lack hl]
      constructor
      · intro h
        cases h
        exact ⟨rfl, hl⟩
      · rintro ⟨h, -⟩
        cases h
        rfl

end

/-- A pass is reached on the first certificate of a session. -/
theorem exists_session_of_pass {r : Except Fault Session} {v : Verdict}
    (h : Prod.fst <$> judge host r = .ok v) (hf : v.failure = none) :
    ∃ x rs, r = .ok x ∧ verifyCertificate (leafOf x) (some host) = .ok (v, rs) := by
  cases r with
  | ok x =>
    obtain ⟨p, hp, rfl⟩ := exists_of_map_eq_ok h
    exact ⟨x, p.2, rfl, hp⟩
  | error e =>
    cases hl : e.lack? with
    | none =>
      rw [judge_of_not_lack hl] at h
      cases h
    | some u =>
      rw [judge_of_lack hl] at h
      cases h
      cases hf

/-! ## The whole verification -/

theorem ends_verifyHost {host : Option String} {r : Except Fault Verdict}
    (h : Ends (verify l host) s es r s') :
    Ends (verifyHost l host) s es (r >>= Verdict.require) s' :=
  h.bind_pure fun w => Ends.ofExcept w.require

/-- The strict form makes a fault of a failure. -/
theorem outcome_verifyHost (s : SecureSocket) (l : Ladder) (host : String) :
    ((Candidate.socket s).verifyHost l (some host)).outcome =
      ((Candidate.socket s).verify l (some host)).outcome >>= Verdict.require := by
  obtain ⟨es, x, s', hres, -⟩ := resolve_ascends s l
  have hv := ends_verify hres host
  have ev : (Candidate.socket s).verify l (some host) = _ := hv.converse
  have eh : (Candidate.socket s).verifyHost l (some host) = _ := (ends_verifyHost hv).converse
  rw [ev, eh]

/-- The course of a verification, for whoever holds the dialogue with the socket. -/
theorem Ascent.verify {x : Except Fault (Option Session)} (h : Ascent s l x es) (host : String) :
    ((Candidate.socket s).verify l (some host)).outcome =
        Prod.fst <$> judge host (conclude l x) ∧
      ((Candidate.socket s).verify l (some host)).trail =
        es ++ closing l x ++ reports (judge host (conclude l x)) := by
  obtain ⟨es', x', s', hres, h'⟩ := resolve_ascends s l
  obtain ⟨rfl, rfl⟩ := h.unique h'
  have hv : (Candidate.socket s).verify l (some host) = ⟨_, _, .socket s'⟩ :=
    (ends_verify hres host).converse
  rw [hv]
  exact ⟨rfl, rfl⟩

theorem Ascent.chain_ne_nil_of_conclude {x : Except Fault (Option Session)} {y : Session}
    (h : Ascent s l x es) (hy : conclude l x = .ok y) : y.chain ≠ [] := by
  obtain rfl := of_conclude_eq_ok hy
  exact h.chain_ne_nil

/-- A fault that a recovery ends in and that is not its own failure is one of the socket's. -/
theorem Ascent.raises_of_conclude {x : Except Fault (Option Session)} {e : Fault}
    (h : Ascent s l x es) (he : conclude l x = .error e) (hl : e.lacksSession = false) :
    s.Raises e := by
  match x, h, he with
  | .error _, h, rfl => exact h.raises
  | .ok none, h, rfl => cases hl

theorem failure_none_iff {host : String} {r : Except Fault Session}
    (hr : ∀ x, r = .ok x → x.chain ≠ []) :
    (∃ w, Prod.fst <$> judge host r = .ok w ∧ w.failure = none) ↔
      ∃ subject cn, Shows r (.ok subject) ∧ commonNameKey <:+: subject.toList ∧
        commonName? subject = some cn ∧ agrees host cn = true := by
  rw [judge_failure_iff hr, or_iff_left (fun h => nomatch h.2)]
  simp only [Verdict.failure_ofSubject_eq_none_iff]
  constructor
  · rintro ⟨subject, hs, cn, hcn, ha⟩
    refine ⟨subject, cn, hs, ?_, hcn, ha⟩
    by_contra hkey
    rw [commonName?_eq_none_iff.mpr hkey] at hcn
    cases hcn
  · rintro ⟨subject, cn, hs, -, hcn, ha⟩
    exact ⟨subject, hs, cn, hcn, ha⟩

theorem failure_noCommonName_iff {r : Except Fault Session} (hr : ∀ x, r = .ok x → x.chain ≠ []) :
    (∃ w, Prod.fst <$> judge host r = .ok w ∧ w.failure = some .noCommonName) ↔
      ∃ subject, Shows r (.ok subject) ∧ ¬ commonNameKey <:+: subject.toList := by
  rw [judge_failure_iff hr, or_iff_left (fun h => nomatch h.2)]
  simp only [Verdict.failure_ofSubject_eq_noCommonName_iff, commonName?_eq_none_iff]

theorem failure_hostMismatch_iff {r : Except Fault Session} (hr : ∀ x, r = .ok x → x.chain ≠ []) :
    (∃ w, Prod.fst <$> judge host r = .ok w ∧ w.failure = some .hostMismatch) ↔
      ∃ subject cn, Shows r (.ok subject) ∧ commonName? subject = some cn ∧
        agrees host cn = false := by
  rw [judge_failure_iff hr, or_iff_left (fun h => nomatch h.2)]
  simp only [Verdict.failure_ofSubject_eq_hostMismatch_iff]
  constructor
  · rintro ⟨subject, hs, cn, hcn, ha⟩
    exact ⟨subject, cn, hs, hcn, ha⟩
  · rintro ⟨subject, cn, hs, hcn, ha⟩
    exact ⟨subject, hs, cn, hcn, ha⟩

theorem failure_sessionUnavailable_iff {r : Except Fault Session}
    (hr : ∀ x, r = .ok x → x.chain ≠ []) :
    (∃ w, Prod.fst <$> judge host r = .ok w ∧ w.failure = some .sessionUnavailable) ↔ Lacks r := by
  rw [judge_failure_iff hr]
  constructor
  · rintro (⟨subject, -, hf⟩ | ⟨hl, -⟩)
    · exact absurd hf (Verdict.failure_ofSubject_ne_sessionUnavailable _ _)
    · exact hl
  · intro hl
    exact .inr ⟨hl, rfl⟩

end PeerCheck.Session
