import PeerCheck.Cert.Certificate
import PeerCheck.Proofs.Run

/-!
# The faults of certificates

Neither reading a certificate nor writing its subject fails as a verification or an attempt to
connect does.
-/

namespace PeerCheck

/-- The fault is neither a failed verification nor a connection that ran out of time. -/
structure Fault.IsPlain (e : Fault) : Prop where
  verified : ∀ u, e ≠ .unverified u
  inTime : ∀ host port seconds, e ≠ .connectTimedOut host port seconds

namespace Cert

variable {e : Fault}

theorem isPlain_of_ofDer {der : List UInt8} (h : Certificate.ofDer der = .error e) : e.IsPlain := by
  unfold Certificate.ofDer at h
  split at h
  · cases h
    exact ⟨nofun, nofun⟩
  · split at h
    · cases h
    · cases h
      exact ⟨nofun, nofun⟩

theorem Attribute.isPlain_of_text {a : Attribute} (h : a.text = .error e) : e.IsPlain := by
  unfold Attribute.text at h
  split at h
  · split at h
    · cases h
    · cases h
      exact ⟨nofun, nofun⟩
  · dsimp only at h
    split at h
    all_goals cases h
    all_goals exact ⟨nofun, nofun⟩

theorem Name.isPlain_of_setTexts {attributes : List Attribute}
    (h : Name.setTexts attributes = .error e) : e.IsPlain := by
  obtain hm | ⟨texts, -, h⟩ := of_bind_eq_error h
  · obtain ⟨a, -, ha⟩ := exists_of_mapM_eq_error hm
    exact Attribute.isPlain_of_text (of_map_eq_error ha)
  · split at h
    · cases h
      exact ⟨nofun, nofun⟩
    · cases h

theorem isPlain_of_render {s : Subject} (h : s.render = .error e) : e.IsPlain := by
  cases s with
  | written t => cases h
  | name n =>
    obtain ⟨a, -, ha⟩ := exists_of_mapM_eq_error (f := Name.setTexts) (of_map_eq_error h)
    exact Name.isPlain_of_setTexts ha

end Cert

end PeerCheck
