import PeerCheck.Proofs.Host.Match
import PeerCheck.Proofs.Run
import PeerCheck.Proofs.Text.Lowered
import PeerCheck.Proofs.Verdict

/-!
# The values a verdict reports

Comparing two values brings them into compared form, and values in that form stay as they are
(`normalizeHost_normalizeHost`, `normalizeName_normalizeName`). So a mismatch reports values that
differ and that, compared again, do not match; and the values that a pass reports match
(`reported_values_compared`).
-/

namespace PeerCheck

open PeerCheck.Cert PeerCheck.Text

namespace Host

theorem normalizeHost_normalizeHost (host : String) :
    normalizeHost (normalizeHost host) = normalizeHost host := by
  rw [normalizeHost, normalizeHost, String.toList_ofList, lower_trim_lower_trim]

theorem normalizeName_normalizeName (cn : String) :
    normalizeName (normalizeName cn) = normalizeName cn := by
  rw [normalizeName, normalizeName, String.toList_ofList, lower_lower]

/-- Values in compared form match just where those they come from do. -/
theorem agrees_normalize (host cn : String) :
    agrees (normalizeHost host) (normalizeName cn) = agrees host cn := by
  rw [agrees, normalizeHost_normalizeHost, normalizeName_normalizeName, ← agrees]

/-- A name matches itself, a wildcard too. -/
theorem matchesNormalized_self (cs : List Char) : matchesNormalized cs cs = true := by
  unfold matchesNormalized
  split
  · exact List.isSuffixOf_iff_suffix.mpr (List.drop_suffix 1 cs)
  · exact beq_self_eq_true cs

theorem normalize_ne_of_not_agrees {host cn : String} (h : agrees host cn = false) :
    normalizeHost host ≠ normalizeName cn := by
  intro heq
  rw [agrees, heq, matchesNormalized_self] at h
  cases h

end Host

open PeerCheck.Host

/-- The verdict tells of two values in compared form that differ and do not match. -/
structure Verdict.TellsApart (v : Verdict) (host cn : String) : Prop where
  host_eq : v.host = some host
  commonName_eq : v.commonName = some cn
  normalizeHost_eq : normalizeHost host = host
  normalizeName_eq : normalizeName cn = cn
  ne : host ≠ cn
  message_eq : v.message = s!"hostname in certificate didn't match: <{host}> != <{cn}>"
  not_agrees : agrees host cn = false

theorem Verdict.tellsApart_mismatch {host cn : String} (h : agrees host cn = false)
    (subject : String) :
    (mismatch host cn subject).TellsApart (normalizeHost host) (normalizeName cn) where
  host_eq := rfl
  commonName_eq := rfl
  normalizeHost_eq := normalizeHost_normalizeHost host
  normalizeName_eq := normalizeName_normalizeName cn
  ne := normalize_ne_of_not_agrees h
  message_eq := rfl
  not_agrees := (agrees_normalize host cn).trans h

/-- A mismatch reports a host and a common name in compared form, which differ and, compared once
more, do not match. A pass reports a host and a common name that match. -/
theorem reported_values_compared {c : Certificate} {host : Option String} {v : Verdict}
    {records : List Log.Record} (h : verifyCertificate c host = .ok (v, records)) :
    (v.failure = some .hostMismatch → ∃ x y, v.TellsApart x y) ∧
      (v.passed = true →
        ∃ x y, v.host = some x ∧ v.commonName = some y ∧ agrees x y = true) := by
  cases host with
  | none => cases h
  | some host =>
    rw [verifyCertificate_some] at h
    obtain ⟨subject, -, hv⟩ := exists_of_map_eq_ok h
    cases hv
    constructor
    · intro hfailure
      obtain ⟨cn, hcn, hno⟩ := Verdict.failure_ofSubject_eq_hostMismatch_iff.mp hfailure
      have hverdict : Verdict.ofSubject subject host = .mismatch host cn subject := by
        simp [Verdict.ofSubject, hcn, hno]
      rw [hverdict]
      exact ⟨_, _, Verdict.tellsApart_mismatch hno subject⟩
    · intro hpassed
      obtain ⟨cn, hcn, hyes⟩ := Verdict.passed_ofSubject_iff.mp hpassed
      have hverdict : Verdict.ofSubject subject host = .pass host cn subject := by
        simp [Verdict.ofSubject, hcn, hyes]
      rw [hverdict]
      exact ⟨host, cn, rfl, rfl, hyes⟩

/-- A wildcard whose lower case has a final sigma, for a host above it and for one below it. -/
theorem reported_values_compared_sigma :
    (∃ v records, verifyCertificate (.ofSubject "O=X,CN=*.GR.ΝΕΟΣ") (some "\u00A0GR.ΝΕΟΣ ") =
        .ok (v, records) ∧ v.failure = some .hostMismatch ∧ ∃ x y, v.TellsApart x y) ∧
      ∃ v records, verifyCertificate (.ofSubject "O=X,CN=*.GR.ΝΕΟΣ") (some "İ.gr.ΝΕΟΣ") =
        .ok (v, records) ∧ v.passed = true ∧
          ∃ x y, v.host = some x ∧ v.commonName = some y ∧ agrees x y = true := by
  have hmismatch := verifyCertificate_of_written
    (rfl : (Certificate.ofSubject "O=X,CN=*.GR.ΝΕΟΣ").subject.render = _) "\u00A0GR.ΝΕΟΣ "
  have hpass := verifyCertificate_of_written
    (rfl : (Certificate.ofSubject "O=X,CN=*.GR.ΝΕΟΣ").subject.render = _) "İ.gr.ΝΕΟΣ"
  have hfailure : (Verdict.ofSubject "O=X,CN=*.GR.ΝΕΟΣ" "\u00A0GR.ΝΕΟΣ ").failure =
      some .hostMismatch := by decide +kernel
  have hpassed : (Verdict.ofSubject "O=X,CN=*.GR.ΝΕΟΣ" "İ.gr.ΝΕΟΣ").passed = true := by
    decide +kernel
  exact ⟨⟨_, _, hmismatch, hfailure, (reported_values_compared hmismatch).1 hfailure⟩,
    ⟨_, _, hpass, hpassed, (reported_values_compared hpass).2 hpassed⟩⟩

end PeerCheck
