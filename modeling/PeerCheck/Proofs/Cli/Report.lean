import PeerCheck.Proofs.Cli.Outcome
import PeerCheck.Proofs.Factory.Verdict
import PeerCheck.Proofs.Json.RoundTrip

/-!
# The host checker reports the verdict of the verification

On each of its three ways to a verdict the host checker prints just what the verification comes to:
offline on the certificate in the file, over the network on the socket that was refused, and where
it was handed out on the certificate that the peer still has (`run_reports_verdict`). What it prints
reads back as the fields of that verdict.
-/

namespace PeerCheck

open PeerCheck.Cert PeerCheck.Json PeerCheck.Log PeerCheck.Config PeerCheck.Session

/-! ## Reports read back -/

theorem plain_text (s : Option String) : ((s.map Value.str).getD .null).Plain := by
  cases s with
  | none => exact .null
  | some s => exact .str s

theorem Verdict.plain_fields (v : Verdict) : (Value.obj v.fields).Plain := by
  refine .obj _ (by simp [Verdict.fields]) ?_
  simp only [Verdict.fields, List.forall_mem_cons, List.not_mem_nil, false_implies, implies_true,
    and_true]
  exact ⟨.bool _, plain_text _, .str _, plain_text _, plain_text _, plain_text _⟩

namespace Cli

def Finding.fields : Finding → Fields
  | verdict v => v.fields
  | trouble message => [("passed", .bool false), ("error", .str message)]

theorem Finding.parse_report (f : Finding) :
    Json.parse f.report.pretty.toList = .ok (.obj f.fields) := by
  cases f with
  | verdict v => exact parse_pretty v.plain_fields
  | trouble m =>
    refine parse_pretty (.obj _ (by simp) ?_)
    simp only [List.forall_mem_cons, List.not_mem_nil, false_implies, implies_true, and_true]
    exact ⟨.bool false, .str m⟩

/-- The report says that the host passed just where the exit code says so. -/
theorem Finding.exitPassed_iff_report (f : Finding) :
    f.exitCode = exitPassed ↔ f.fields.get? "passed" = some (.bool true) := by
  cases f with
  | verdict v =>
    have hget : (Finding.verdict v).fields.get? "passed" = some (.bool v.passed) := rfl
    rw [hget]
    cases h : v.passed <;> simp [Finding.exitCode, h, exitPassed, exitFailed]
  | trouble m =>
    have hget : (Finding.trouble m).fields.get? "passed" = some (.bool false) := rfl
    rw [hget]
    simp [Finding.exitCode, exitPassed, exitFault]

theorem Finding.exitFailed_iff_report (f : Finding) :
    f.exitCode = exitFailed ↔ ∃ v : Verdict, v.passed = false ∧ f.fields = v.fields := by
  cases f with
  | verdict v =>
    rw [Finding.exitCode_eq_exitFailed_iff]
    constructor
    · rintro ⟨_, ⟨⟩, hv⟩
      exact ⟨v, hv, rfl⟩
    · rintro ⟨v', hv', hfields⟩
      have hpassed : v.passed = v'.passed := by
        simpa [Finding.fields, Verdict.fields] using congrArg List.head? hfields
      exact ⟨v, rfl, hpassed.trans hv'⟩
  | trouble m =>
    constructor
    · intro h
      cases h
    · rintro ⟨v, -, hfields⟩
      cases congrArg List.length hfields

/-- The last thing that is printed is the verdict `v`, and the exit code tells whether it passed. -/
def Prints (a : Arguments) (w : World) (v : Verdict) : Prop :=
  ∃ u text code, (run a).run w = (.ok code, u.printed text) ∧ Logs w u ∧
    Json.parse text.toList = .ok (.obj v.fields) ∧
    (code = exitPassed ↔ v.passed = true) ∧ (code = exitFailed ↔ v.passed = false)

variable {a : Arguments} {host : String} {w u u' : World} {s : Settings} {v : Verdict}
  {c : Certificate} {n : Nat}

theorem prints_of_found (ht : a.target? = some host) (h : Found a host w (.verdict v)) :
    Prints a w v := by
  obtain ⟨_, hrun, u, hu, rfl⟩ := h.reported ht
  refine ⟨u, _, _, hrun, hu, (Finding.verdict v).parse_report, ?_, ?_⟩
  · rw [Finding.exitCode_eq_exitPassed_iff]
    simp
  · rw [Finding.exitCode_eq_exitFailed_iff]
    simp

/-! ## The certificate that is taken in the end -/

/-- A socket that answers with a certificate gives it up. -/
theorem run_takeCertificate {t : TlsSocket} {der : List UInt8} (ht : u.sockets[n - 1]? = some t)
    (hcert : t.certificate.current = .ok (some der)) (hd : Certificate.ofDer der = .ok c) :
    ∃ u', (takeCertificate n).run u = (.ok c, u') := by
  have hc := Factory.ends_peerCertificate t
  rw [hcert] at hc
  refine ⟨u.conversed n _ ([.call .certificate] ++ [] ++ [.call .close]), Act.run_converse ht
    (Session.Ends.tryFinally (Session.Ends.get fun talk htalk => ?_)
      (Factory.ends_closeSocket t.asked))⟩
  rw [htalk, ← hd]
  exact hc.bind (Session.Ends.ofExcept _)

/-! ## The three ways -/

/-- The settings that a factory is made of: those of a file, if one was named. -/
def requested (a : Arguments) (s : Settings) : Option Settings :=
  if (given? a.config).isSome then some s else none

def connection (a : Arguments) (host : String) (f : Factory) : Act Nat :=
  Factory.createSocket f (some host) (.int a.port)
    { localAddress := a.localAddress, timeout := a.connectTimeout.map Value.float }

theorem run_opening {f : Factory} (hf : (Factory.create (requested a s)).run u = (.ok f, u')) :
    (opening a host s).run u = (connection a host f).run u' :=
  run_bind_of_ok hf

/-- The host checker prints the verdict of the verification: offline that on the certificate in the
file; where the connection is refused for want of verification, that on its socket, which the fault
tells field by field; and where the socket is handed out and its peer keeps to one certificate, the
verdict that let it pass. Of every report the exit code says what it says. -/
theorem run_reports_verdict (argv : List String) (a : Arguments) (w : World)
    (hread : Arguments.read argv = .ok a) (hhelp : a.help = false) :
    ∃ host, a.host = some host ∧
      (∀ s u path c v rs, Ready a w s u → given? a.certFile = some path →
        (certificateIn path).run u = (.ok c, u) →
        verifyCertificate c (some host) = .ok (v, rs) → Prints a w v) ∧
      (∀ s u f u₁, Ready a w s u → given? a.certFile = none →
        (Factory.create (requested a s)).run u = (.ok f, u₁) →
        (∀ x u₂, (connection a host f).run u₁ = (.error (.unverified x), u₂) →
          Prints a w (.ofUnverified x) ∧
          (¬ u₁.Voices (.unverified x) → ∃ t, u₁.wrapAnswer = .ok t ∧
            ((Candidate.socket (.tls t.fresh)).verify f.ladder (some host)).outcome =
              .ok (.ofUnverified x))) ∧
        (∀ n u₂ t der, (connection a host f).run u₁ = (.ok n, u₂) → u₁.wrapAnswer = .ok t →
          t.Stable der → ∃ v,
            ((Candidate.socket (.tls t.fresh)).verify f.ladder (some host)).outcome = .ok v ∧
            v.passed = true ∧ Prints a w v)) ∧
      (∀ code w', (run a).run w = (.ok code, w') → ∃ u text, ∃ fields : Fields, Logs w u ∧
        w' = u.printed text ∧ Json.parse text.toList = .ok (.obj fields) ∧
        (code = exitPassed ↔ fields.get? "passed" = some (.bool true)) ∧
        (code = exitFailed ↔ ∃ v : Verdict, v.passed = false ∧ fields = v.fields)) := by
  obtain ⟨host, hhost, ht⟩ := exists_target_of_read hread hhelp
  refine ⟨host, hhost, ?_, ?_, ?_⟩
  · intro s u path c v rs hr hp hc hv
    exact prints_of_found ht (.file s u path c v rs hr hp hc hv)
  · intro s u f u₁ hr hp hf
    refine ⟨fun x u₂ ho => ⟨?_, fun hx => Factory.verdict_of_refused ho hx⟩, ?_⟩
    · exact prints_of_found ht (.unverified s u u₂ x hr hp ((run_opening hf).trans ho))
    · intro n u₂ t der ho hwrap hst
      obtain ⟨v, hjudged, hpassed, ⟨t', ht', hst'⟩, c, rs, hd, hv⟩ :=
        Factory.verdict_of_handedOut ho hwrap hst
      obtain ⟨u₃, htake⟩ := run_takeCertificate ht' (hst'.certificate 0) hd
      exact ⟨v, hjudged, hpassed,
        prints_of_found ht (.peer s u u₂ u₃ n c v rs hr hp ((run_opening hf).trans ho) htake hv)⟩
  · intro code w' hrun
    obtain ⟨f, hf⟩ | ⟨e, u, hfail, -, -⟩ := ends_of_target w ht
    · obtain ⟨_, hreport, u, hu, rfl⟩ := hf.reported ht
      cases hrun.symm.trans hreport
      exact ⟨u, _, f.fields, hu, rfl, f.parse_report, f.exitPassed_iff_report,
        f.exitFailed_iff_report⟩
    · cases hrun.symm.trans hfail

theorem stable_readySocket :
    (Factory.readySocket (.ok (some Factory.peerDer))).Stable Factory.peerDer where
  certificate i := by
    cases i with
    | zero => rfl
    | succ i =>
      induction i with
      | zero => rfl
      | succ i ih => exact ih
  chain := nofun

def plainFactory : Factory :=
  ⟨.default, ({ origin := .platform } : Tls.Context).enforce, .default⟩

theorem run_create_none (w : World) :
    ∃ u, (Factory.create none).run w = (.ok plainFactory, u) ∧
      u.wrapAnswer = w.wrapAnswer ∧ u.network = w.network := ⟨_, rfl, rfl, rfl⟩

/-- A host whose peer keeps to its certificate is reported as it was verified. -/
theorem readySocket_reported :
    let w : World := { wraps := ⟨.ok (Factory.readySocket (.ok (some Factory.peerDer))), []⟩ }
    Prints { host := some "peer.test" } w (Verdict.pass "peer.test" "peer.test" "CN=peer.test") := by
  intro w
  obtain ⟨_, ⟨rfl⟩, -, hnetwork, -⟩ :=
    run_reports_verdict ["peer.test"] { host := some "peer.test" } w rfl rfl
  have hready : Ready { host := some "peer.test" } w .default w := .unlogged w rfl (by decide)
  have hverified := Factory.verified_readySocket (.ok (some Factory.peerDer))
  obtain ⟨u, hf, hwrap, hu⟩ := run_create_none w
  have hconnect : u.network.connects.current = none ∧ u.network.timeoutFault = none := by
    rw [hu]
    exact ⟨rfl, rfl⟩
  obtain ⟨n, u₂, hrun⟩ := (Factory.createSocket_ok_iff plainFactory (some "peer.test") (.int 443)
    { localAddress := none, timeout := none } u).mpr
    ⟨_, rfl, hconnect.1, hconnect.2, _, _, _, _, _, hwrap, hverified, rfl⟩
  obtain ⟨v, hv, -, hprints⟩ :=
    (hnetwork .default w plainFactory u hready rfl hf).2 n u₂ _ _ hrun hwrap stable_readySocket
  have hpass := (TlsSocket.Stable.verdict_of_verifyHost
    ⟨stable_readySocket.certificate, stable_readySocket.chain⟩ hverified).1
  cases hpass.symm.trans hv
  exact hprints

end Cli

end PeerCheck
