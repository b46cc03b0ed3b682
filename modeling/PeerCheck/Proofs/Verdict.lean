import PeerCheck.Verification
import PeerCheck.Proofs.Cert.CommonName

/-!
# Verdicts on subjects

The verdict on a written subject passes just where the subject has a common name that the host
agrees with (`passed_ofSubject_iff`); the two failures split what remains by whether the key of the
common name occurs.
-/

namespace PeerCheck

open PeerCheck.Cert PeerCheck.Host PeerCheck.Text

theorem verifyCertificate_some (c : Certificate) (host : String) :
    verifyCertificate c (some host) =
      c.subject.render.map fun s => (Verdict.ofSubject s host, Verdict.records s host) := by
  rw [verifyCertificate]
  cases c.subject.render <;> rfl

theorem verifyCertificate_of_written {c : Certificate} {subject : String}
    (h : c.subject.render = .ok subject) (host : String) :
    verifyCertificate c (some host) =
      .ok (Verdict.ofSubject subject host, Verdict.records subject host) := by
  rw [verifyCertificate_some, h]
  rfl

namespace Verdict

/-- Only a pass is let through. -/
theorem require_eq_ok_iff {v w : Verdict} : v.require = .ok w ↔ v = w ∧ w.failure = none := by
  unfold require
  split
  · next hf =>
    constructor
    · intro h
      cases h
      exact ⟨rfl, hf⟩
    · rintro ⟨rfl, -⟩
      rfl
  · next f hf =>
    constructor
    · intro h
      cases h
    · rintro ⟨rfl, hn⟩
      rw [hf] at hn
      cases hn

/-- A verdict that is not let through is told by its own fault. -/
theorem exists_unverified_of_require {v : Verdict} {e : Fault} (h : v.require = .error e) :
    ∃ u, e = .unverified u := by
  unfold require at h
  split at h
  · cases h
  · cases h
    exact ⟨_, rfl⟩

/-- The fault of a failure tells all of the verdict. -/
theorem eq_ofUnverified_of_require {v : Verdict} {u : Unverified}
    (h : v.require = .error (.unverified u)) : v = ofUnverified u := by
  unfold require at h
  split at h
  · cases h
  · next f hf =>
    cases h
    rw [ofUnverified, ← hf]

theorem failure_ofSubject_iff {subject host : String} {f : Option Failure} :
    (ofSubject subject host).failure = f ↔
      (commonName? subject = none ∧ some .noCommonName = f) ∨
      ∃ cn, commonName? subject = some cn ∧
        (if agrees host cn then none else some .hostMismatch) = f := by
  rw [ofSubject]
  cases commonName? subject with
  | none => simp [nameless, ofUnverified]
  | some cn => by_cases h : agrees host cn <;> simp [h, pass, mismatch, ofUnverified]

theorem failure_ofSubject_eq_none_iff {subject host : String} :
    (ofSubject subject host).failure = none ↔
      ∃ cn, commonName? subject = some cn ∧ agrees host cn = true := by
  rw [failure_ofSubject_iff]
  simp

theorem failure_ofSubject_eq_noCommonName_iff {subject host : String} :
    (ofSubject subject host).failure = some .noCommonName ↔ commonName? subject = none := by
  rw [failure_ofSubject_iff]
  simp

theorem failure_ofSubject_eq_hostMismatch_iff {subject host : String} :
    (ofSubject subject host).failure = some .hostMismatch ↔
      ∃ cn, commonName? subject = some cn ∧ agrees host cn = false := by
  rw [failure_ofSubject_iff]
  simp

theorem failure_ofSubject_ne_sessionUnavailable (subject host : String) :
    (ofSubject subject host).failure ≠ some .sessionUnavailable := by
  rw [Ne, failure_ofSubject_iff]
  simp

theorem passed_ofSubject_iff {subject host : String} :
    (ofSubject subject host).passed ↔ ∃ cn, commonName? subject = some cn ∧ agrees host cn := by
  rw [passed, Option.isNone_iff_eq_none, failure_ofSubject_eq_none_iff]

end Verdict

end PeerCheck
